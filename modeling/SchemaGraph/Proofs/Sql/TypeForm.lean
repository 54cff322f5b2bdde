import SchemaGraph.Proofs.Sql.TypeText

/-!
# The form of canonical types

A declared type is a word with arguments, continuing words and array suffixes after it. Reduced to
its canonical name it has the form of a type without arguments, so that it can be written and read
back (`isTypeText_normalizeType`). There is one exception: an argument that is no parenthesis but
whose text has one, such as a literal, upsets the count of open groups.
-/

namespace SchemaGraph.Sql

/-! ## Types -/

/-- A bare word is touched neither by the count of groups nor by the tidying up. -/
theorem plain_of_isBareWord {s : String} (h : isBareWord s = true) :
    ∀ c ∈ s.toList, isParen c = false ∧ Text.isBlank c = false ∧ c ≠ ' ' := by
  obtain ⟨c, rest, hs, hc, hrest⟩ := isBareWord_iff.1 h
  have hword : ∀ d ∈ s.toList, isWordChar d = true := by
    rw [List.all_eq_true] at hrest
    rw [hs, List.forall_mem_cons]
    exact ⟨isWordChar_of_isWordStart hc, hrest⟩
  have hne : ∀ {d x : Char}, isWordChar d = true → isWordChar x = false → d ≠ x := by
    rintro d x hd hx rfl
    rw [hd] at hx
    cases hx
  intro d hd
  have hd' := hword d hd
  refine ⟨?_, ?_, hne hd' (by decide)⟩
  · simp [isParen, hne hd' (show isWordChar '(' = false by decide),
      hne hd' (show isWordChar ')' = false by decide)]
  · rw [← Bool.not_eq_true]
    intro hb
    have hno := isWordChar_of_isBlank hb
    rw [hd'] at hno
    cases hno

theorem squeeze_word {s : String} (h : isBareWord s = true) (more : List Char) :
    Text.squeeze (s.toList ++ more) = s.toList ++ Text.squeezeAfter false more := by
  have hplain := plain_of_isBareWord h
  obtain ⟨c, rest, hs, -, -⟩ := isBareWord_iff.1 h
  rw [hs, List.forall_mem_cons] at hplain
  have hrest := squeezeAfter_false_append (fun d hd => (hplain.2 d hd).2.1) more
  rw [hs, Text.squeeze, List.cons_append, List.dropWhile_cons_of_neg (by simp [hplain.1.2.1])]
  exact congrArg (c :: ·) hrest

theorem stripArguments_word {s : String} (h : isBareWord s = true) (tail : List Char) :
    stripArguments (s.toList ++ tail)
      = s.toList ++ attachBrackets (Text.squeezeAfter false (dropGroups 0 tail)) := by
  have hplain := plain_of_isBareWord h
  have hgroups := dropGroups_append (fun c hc => (hplain c hc).1) 0 tail
  rw [if_pos rfl] at hgroups
  rw [stripArguments, hgroups, squeeze_word h,
    attachBrackets_append fun c hc => (hplain c hc).2.2]

/-- A declared type begins with its word, whatever the arguments after it are. -/
theorem stripArguments_declared {w : String} (h : TypeWord w) (tail : List Char) :
    stripArguments (Text.upper (w.toList ++ tail))
      = (capitals w).toList
        ++ attachBrackets (Text.squeezeAfter false (dropGroups 0 (Text.upper tail))) := by
  rw [← stripArguments_word (isBareWord_capitals h), upper_append, capitals, String.toList_ofList]

/-- Every alias stands for a single word. -/
theorem alias_words (d : Dialect) : ∀ a ∈ d.aliases ++ commonAliases,
    isBareWord a.2 = true ∧ Keyword.ofWord? a.2 = none := by
  cases d <;> decide

/-- The canonical name of a declared type is that of an alias, or its own words. -/
theorem normalizeType_cases (d : Dialect) (declared : String) :
    (isBareWord (normalizeType d declared) = true ∧
        Keyword.ofWord? (normalizeType d declared) = none) ∨
      normalizeType d declared = String.ofList (stripArguments (Text.upper declared.toList)) := by
  unfold normalizeType
  dsimp only
  split
  · rename_i a hfind
    exact Or.inl (alias_words d a (List.mem_of_find?_eq_some hfind))
  · rw [stripArguments_squeeze]
    exact Or.inr rfl

theorem allBlank_normalizeType (d : Dialect) {w : String} (h : TypeWord w) (tail : String) :
    Text.allBlank (normalizeType d (w ++ tail)) = false := by
  rcases normalizeType_cases d (w ++ tail) with ⟨hbare, -⟩ | hstrip
  · exact allBlank_of_isBareWord hbare
  · have hword := allBlank_of_isBareWord (isBareWord_capitals h)
    rw [Text.allBlank] at hword
    rw [hstrip, String.toList_append, stripArguments_declared h, Text.allBlank,
      String.toList_ofList, List.all_append, hword, Bool.false_and]

/-- The words of a declared type without its arguments, as a type. -/
theorem writtenType_of_declared {w : String} (h : TypeWord w) {rest : List Token}
    (hargs : ∀ t ∈ argumentTokens 0 rest, t.hidesParen = false) :
    ∃ t : WrittenType, t.word = capitals w ∧
      t.text.toList = stripArguments (Text.upper (w ++ (declaredTail 0 rest).1).toList) := by
  obtain ⟨ss, hss⟩ := dropGroups_declaredTail hargs
  obtain ⟨hsqueeze, hattach⟩ := tidy_suffixes ss
  refine ⟨⟨capitals w, ss, isBareWord_capitals h, ofWord?_capitals h⟩, rfl, ?_⟩
  rw [String.toList_append, stripArguments_declared h, hss, hsqueeze, hattach, WrittenType.text,
    String.toList_append, String.toList_join, List.flatMap_map]

/-- The canonical name of a declared type has the form of a type, if no argument hides a
parenthesis. -/
theorem isTypeText_normalizeType (d : Dialect) {w : String} (h : TypeWord w) {rest : List Token}
    (hargs : ∀ t ∈ argumentTokens 0 rest, t.hidesParen = false) :
    IsTypeText (normalizeType d (w ++ (declaredTail 0 rest).1)) := by
  rcases normalizeType_cases d (w ++ (declaredTail 0 rest).1) with ⟨hbare, hkey⟩ | hstrip
  · refine ⟨⟨_, [], hbare, hkey⟩, ?_⟩
    simp [WrittenType.text]
  · obtain ⟨t, -, ht⟩ := writtenType_of_declared h hargs
    exact ⟨t, by rw [hstrip, ← ht, String.ofList_toList]⟩

/-! ## When a canonical name is canonical -/

/-- An alias stands for a type that is canonical. -/
theorem isCanonical_alias (d : Dialect) : ∀ a ∈ d.aliases ++ commonAliases,
    isCanonical d a.2 = true := by
  cases d <;> decide +kernel

/-- An alias occurs in the declared type as it is, or no alias but the type itself occurs in the
words that are left without its arguments. -/
def KeepsName (d : Dialect) (declared : String) : Prop :=
  (findAlias? d (Text.squeeze (Text.upper declared.toList))).isSome = true ∨
    ∀ a, findAlias? d (stripArguments (Text.upper declared.toList)) = some a →
      a.2.toList = stripArguments (Text.upper declared.toList)

end SchemaGraph.Sql
