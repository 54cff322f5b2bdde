import Mathlib.Data.List.Basic
import Mathlib.Data.List.Find
import SchemaGraph.Proofs.Sql.CanonicalName
import SchemaGraph.Proofs.Sql.KeyForm

/-!
# Array suffixes

A declared type reaches its canonical name by one of two ways. The words that are left without
arguments keep an array suffix at the end; an alias stands for the whole declaration, and the suffix
is lost with the rest of it. An array of an aliased type thus has the type of its elements
(`normalizeType_array`). Only a group that is still open at the end could take the suffix with it on
the other way.
-/

namespace SchemaGraph.Sql

/-! ## Blanks and brackets -/

/-- No space is left at the end of a squeezed text. -/
theorem getLast?_squeezeAfter (gap : Bool) (cs : List Char) :
    (Text.squeezeAfter gap cs).getLast? ≠ some ' ' := by
  induction cs generalizing gap with
  | nil => simp [Text.squeezeAfter]
  | cons c cs ih =>
    by_cases hb : Text.isBlank c = true
    · rw [Text.squeezeAfter, if_pos hb]
      exact ih true
    have hc : c ≠ ' ' := by
      rintro rfl
      exact hb Text.isBlank_space
    have hlast : (c :: Text.squeezeAfter false cs).getLast? ≠ some ' ' := by
      have hrest := ih false
      cases hmore : Text.squeezeAfter false cs with
      | nil => simp [hc]
      | cons d more =>
        rw [hmore] at hrest
        rwa [List.getLast?_cons_cons]
    rw [Text.squeezeAfter, if_neg hb]
    split
    · rwa [List.getLast?_cons_cons]
    · exact hlast

theorem getLast?_squeeze (cs : List Char) : (Text.squeeze cs).getLast? ≠ some ' ' := by
  rw [squeeze_eq_tail, List.getLast?_tail]
  split
  · simp
  · exact getLast?_squeezeAfter true cs

/-- Before brackets at the end a gap becomes a space, like before any other word. -/
theorem squeezeAfter_brackets (gap : Bool) (cs : List Char) :
    ∃ space, (space = [] ∨ space = [' ']) ∧
      Text.squeezeAfter gap (cs ++ ['[', ']'])
        = Text.squeezeAfter gap cs ++ (space ++ ['[', ']']) := by
  induction cs generalizing gap with
  | nil =>
    cases gap with
    | false => exact ⟨[], Or.inl rfl, by decide⟩
    | true => exact ⟨[' '], Or.inr rfl, by decide⟩
  | cons c cs ih =>
    by_cases hb : Text.isBlank c = true
    · simpa [Text.squeezeAfter, hb] using ih true
    · obtain ⟨space, hspace, hread⟩ := ih false
      refine ⟨space, hspace, ?_⟩
      cases gap <;> simp [Text.squeezeAfter, hb, hread]

theorem squeeze_brackets (cs : List Char) :
    ∃ space, (space = [] ∨ space = [' ']) ∧
      Text.squeeze (cs ++ ['[', ']']) = Text.squeeze cs ++ (space ++ ['[', ']']) := by
  obtain ⟨space, hspace, hread⟩ := squeezeAfter_brackets true cs
  rcases squeezeAfter_true cs with ⟨hafter, hsqueeze⟩ | hafter
  · -- Nothing stands before the brackets, so no space is written before them either.
    refine ⟨[], Or.inl rfl, ?_⟩
    rw [squeeze_eq_tail, hread, hafter, hsqueeze]
    rcases squeezeAfter_true (cs ++ ['[', ']']) with ⟨hnone, -⟩ | hsome
    · rw [hread] at hnone
      simp at hnone
    · rcases hspace with rfl | rfl
      · rw [hread, hafter] at hsome
        simp at hsome
      · rfl
  · refine ⟨space, hspace, ?_⟩
    rw [squeeze_eq_tail, hread, hafter]
    rfl

/-- The space before brackets at the end is taken away, and nothing else is. -/
theorem attachBrackets_brackets {cs space : List Char} (h : cs.getLast? ≠ some ' ')
    (hspace : space = [] ∨ space = [' ']) :
    attachBrackets (cs ++ (space ++ ['[', ']'])) = attachBrackets cs ++ ['[', ']'] := by
  fun_induction attachBrackets cs with
  | case1 => rcases hspace with rfl | rfl <;> decide
  | case2 c =>
    have hc : c ≠ ' ' := by simpa using h
    rw [List.singleton_append, attachBrackets_cons hc]
    rcases hspace with rfl | rfl <;> exact congrArg (c :: ·) (by decide)
  | case3 c d rest hattach ih =>
    have hrest : rest.getLast? ≠ some ' ' := by
      cases rest with
      | nil => simp
      | cons e rest => simpa using h
    rw [List.cons_append, List.cons_append, attachBrackets, if_pos hattach, ih hrest,
      List.cons_append]
  | case4 c d rest hattach ih =>
    rw [List.cons_append, List.cons_append, attachBrackets, if_neg hattach]
    exact congrArg (c :: ·) (ih (by simpa using h))

/-! ## Open groups -/

/-- How many groups are open after a text, if a closing parenthesis without an opening one counts
for nothing. -/
def openGroups (depth : Nat) : List Char → Nat
  | [] => depth
  | c :: rest =>
    openGroups (if c = '(' then depth + 1 else if c = ')' then depth - 1 else depth) rest

theorem dropGroups_append_openGroups (depth : Nat) (cs more : List Char) :
    dropGroups depth (cs ++ more)
      = dropGroups depth cs ++ dropGroups (openGroups depth cs) more := by
  induction cs generalizing depth with
  | nil => rfl
  | cons c cs ih =>
    rw [List.cons_append, dropGroups, dropGroups, openGroups]
    simp only [ih]
    split
    · rfl
    split
    · rfl
    split <;> rfl

theorem openGroups_append (depth : Nat) (cs more : List Char) :
    openGroups depth (cs ++ more) = openGroups (openGroups depth cs) more := by
  induction cs generalizing depth with
  | nil => rfl
  | cons c cs ih => exact ih _

theorem openGroups_of_noParen {cs : List Char} (h : ∀ c ∈ cs, isParen c = false) (depth : Nat) :
    openGroups depth cs = depth := by
  induction cs with
  | nil => rfl
  | cons c cs ih =>
    rw [List.forall_mem_cons] at h
    have hc : ¬ c = '(' ∧ ¬ c = ')' := by simpa [isParen] using h.1
    rw [openGroups, if_neg hc.1, if_neg hc.2, ih h.2]

/-- Capitals open and close as many groups. -/
theorem openGroups_upper (depth : Nat) (cs : List Char) :
    openGroups depth (Text.upper cs) = openGroups depth cs := by
  induction cs generalizing depth with
  | nil => rfl
  | cons c cs ih =>
    have hcons : Text.upper (c :: cs) = Text.capital c ++ Text.upper cs := List.flatMap_cons
    have hcapital : openGroups depth (Text.capital c) = openGroups depth [c] := by
      cases hc : isParen c with
      | true =>
        rw [isParen, Bool.or_eq_true, beq_iff_eq, beq_iff_eq] at hc
        rcases hc with rfl | rfl <;> rfl
      | false =>
        rw [openGroups_of_noParen (not_isParen_capital hc),
          openGroups_of_noParen (List.forall_mem_singleton.2 hc)]
    rw [hcons, openGroups_append, hcapital, ih]
    rfl

/-- Each group is closed: no end of the text opens more parentheses than it closes. -/
def GroupsClosed (cs : List Char) : Prop := ∀ back, back <:+ cs → back.count '(' ≤ back.count ')'

theorem groupsClosed_cons {c : Char} {cs : List Char} :
    GroupsClosed (c :: cs) ↔
      (c :: cs).count '(' ≤ (c :: cs).count ')' ∧ GroupsClosed cs := by
  simp only [GroupsClosed, List.suffix_cons_iff, or_imp, forall_and, forall_eq]

/-- No group is open in the end exactly if each is closed, those that were open before the text
among them. -/
theorem openGroups_eq_zero_iff (depth : Nat) (cs : List Char) :
    openGroups depth cs = 0 ↔ GroupsClosed cs ∧ depth + cs.count '(' ≤ cs.count ')' := by
  induction cs generalizing depth with
  | nil => simp [openGroups, GroupsClosed]
  | cons c cs ih =>
    rw [openGroups, ih, groupsClosed_cons]
    by_cases hclosed : GroupsClosed cs
    · have hcount := hclosed cs List.suffix_rfl
      simp only [hclosed, true_and, and_true, List.count_cons]
      by_cases hl : c = '('
      · simp [hl]
        omega
      by_cases hr : c = ')'
      · simp [hr]
        omega
      · simp [hl, hr]
        omega
    · simp [hclosed]

/-! ## The canonical name of an array -/

/-- An alias occurs in the declaration. -/
def Aliased (d : Dialect) (declared : String) : Prop :=
  ∃ a ∈ d.aliases ++ commonAliases,
    a.1.toList <:+: Text.squeeze (Text.upper declared.toList)

theorem openGroups_upper_eq_zero_iff (declared : String) :
    openGroups 0 (Text.upper declared.toList) = 0 ↔ GroupsClosed declared.toList := by
  rw [openGroups_upper, openGroups_eq_zero_iff, Nat.zero_add]
  exact and_iff_left_of_imp fun h => h _ List.suffix_rfl

theorem hasPart_iff (part cs : List Char) : Text.hasPart part cs = true ↔ part <:+: cs := by
  induction cs with
  | nil => simp [Text.hasPart]
  | cons c cs ih =>
    rw [Text.hasPart, Bool.or_eq_true, List.isPrefixOf_iff_prefix, ih, List.infix_cons_iff]

theorem isSome_findAlias?_iff (d : Dialect) (declared : String) :
    (findAlias? d (Text.squeeze (Text.upper declared.toList))).isSome = true ↔
      Aliased d declared := by
  simp only [findAlias?, List.find?_isSome, hasPart_iff, Aliased]

/-- More text at the end makes no more parts, if no character of it ends the part. -/
theorem infix_append_iff {part more : List Char} (h : ∀ c ∈ more, part.getLast? ≠ some c)
    (cs : List Char) : part <:+: cs ++ more ↔ part <:+: cs := by
  induction more generalizing cs with
  | nil => rw [List.append_nil]
  | cons c more ih =>
    rw [List.forall_mem_cons] at h
    rw [List.append_cons, ih h.2, List.infix_concat_iff]
    refine or_iff_right_of_imp fun hsuffix => ?_
    rcases List.suffix_concat_iff.1 hsuffix with rfl | ⟨front, rfl, -⟩
    · exact List.nil_infix
    · exact absurd List.getLast?_concat h.1

theorem getLast?_alias (d : Dialect) : ∀ a ∈ d.aliases ++ commonAliases,
    ∀ c ∈ [' ', '[', ']'], a.1.toList.getLast? ≠ some c := by
  have hall : (d.aliases ++ commonAliases).all (fun a =>
      [' ', '[', ']'].all fun c => a.1.toList.getLast? != some c) = true := by
    cases d <;> decide
  simpa only [List.all_eq_true, bne_iff_ne] using hall

/-- An array has the alias of its elements. -/
theorem findAlias?_brackets (d : Dialect) (cs : List Char) :
    findAlias? d (Text.squeeze (cs ++ ['[', ']'])) = findAlias? d (Text.squeeze cs) := by
  obtain ⟨space, hspace, hsqueeze⟩ := squeeze_brackets cs
  refine List.find?_congr fun a ha => ?_
  rw [Bool.eq_iff_iff, hasPart_iff, hasPart_iff, hsqueeze]
  refine infix_append_iff (fun c hc => getLast?_alias d a ha c ?_) _
  rcases hspace with rfl | rfl
  · exact List.mem_cons_of_mem _ hc
  · exact hc

/-- Without its arguments an array keeps its suffix, unless a group is open before it. -/
theorem stripArguments_brackets (cs : List Char) :
    stripArguments (cs ++ ['[', ']'])
      = stripArguments cs ++ (if openGroups 0 cs = 0 then ['[', ']'] else []) := by
  have hplain : ∀ c ∈ ['[', ']'], isParen c = false := by simp [isParen]
  have hsuffix := dropGroups_append hplain (openGroups 0 cs) []
  rw [List.append_nil] at hsuffix
  rw [stripArguments, dropGroups_append_openGroups, hsuffix]
  split
  · obtain ⟨space, hspace, hsqueeze⟩ := squeeze_brackets (dropGroups 0 cs)
    rw [dropGroups, List.append_nil, hsqueeze, attachBrackets_brackets (getLast?_squeeze _) hspace,
      stripArguments]
  · rw [dropGroups, List.append_nil, List.append_nil, List.append_nil, stripArguments]

theorem upper_brackets (declared : String) :
    Text.upper (declared ++ "[]").toList = Text.upper declared.toList ++ ['[', ']'] := by
  rw [String.toList_append, upper_append]
  rfl

/-- The suffix is kept at the end of words that no alias stands for. -/
theorem normalizeType_brackets_kept {d : Dialect} {declared : String}
    (hclosed : GroupsClosed declared.toList) (halias : ¬ Aliased d declared) :
    normalizeType d (declared ++ "[]") = normalizeType d declared ++ "[]" := by
  have hnone : findAlias? d (Text.squeeze (Text.upper declared.toList)) = none := by
    rw [← Option.not_isSome_iff_eq_none, isSome_findAlias?_iff]
    exact halias
  have hstrip := stripArguments_brackets (Text.upper declared.toList)
  rw [if_pos ((openGroups_upper_eq_zero_iff declared).2 hclosed)] at hstrip
  unfold normalizeType
  simp only [upper_brackets, findAlias?_brackets, hnone, stripArguments_squeeze, hstrip,
    String.ofList_append]

/-- The suffix is lost in an alias or in an open group. -/
theorem normalizeType_brackets_lost {d : Dialect} {declared : String}
    (h : GroupsClosed declared.toList → Aliased d declared) :
    normalizeType d (declared ++ "[]") = normalizeType d declared := by
  unfold normalizeType
  cases hfind : findAlias? d (Text.squeeze (Text.upper declared.toList)) with
  | some a => simp only [upper_brackets, findAlias?_brackets, hfind]
  | none =>
    have hopen : ¬ openGroups 0 (Text.upper declared.toList) = 0 := by
      rw [openGroups_upper_eq_zero_iff]
      intro hclosed
      have hsome := (isSome_findAlias?_iff d declared).2 (h hclosed)
      rw [hfind] at hsome
      cases hsome
    have hstrip := stripArguments_brackets (Text.upper declared.toList)
    rw [if_neg hopen, List.append_nil] at hstrip
    simp only [upper_brackets, findAlias?_brackets, hfind, stripArguments_squeeze, hstrip]

/-! ## Columns that are arrays -/

/-- What follows the first word of a type: continuing words, array suffixes, and arguments whose
parentheses match. -/
inductive TypeRest : List Token → Prop where
  | nil : TypeRest []
  | word {t : Token} {ts : List Token} (ht : continuesType t = true) (h : TypeRest ts) :
    TypeRest (t :: ts)
  | brackets {ts : List Token} (h : TypeRest ts) : TypeRest (.brackets :: ts)
  | arguments {inner ts : List Token} (hi : Nested inner) (h : TypeRest ts) :
    TypeRest (.leftParen :: (inner ++ .rightParen :: ts))

/-- The rest of a type is read into the declared type, whatever follows it. -/
theorem declaredTail_typeRest {ts : List Token} (h : TypeRest ts) :
    ∃ text, ∀ rest, declaredTail 0 (ts ++ rest)
      = (text ++ (declaredTail 0 rest).1, (declaredTail 0 rest).2) := by
  induction h with
  | nil => exact ⟨"", fun rest => by simp⟩
  | @word t ts ht _ ih =>
    obtain ⟨text, hread⟩ := ih
    have hne : t ≠ .leftParen ∧ t ≠ .brackets := by
      constructor <;> rintro rfl <;> exact absurd ht (by decide)
    refine ⟨" " ++ t.text ++ text, fun rest => ?_⟩
    simp [declaredTail, hne, ht, hread, String.append_assoc]
  | brackets _ ih =>
    obtain ⟨text, hread⟩ := ih
    refine ⟨"[]" ++ text, fun rest => ?_⟩
    simp [declaredTail, hread, Token.text, String.append_assoc]
  | arguments hi _ ih =>
    obtain ⟨arguments, harguments⟩ := declaredTail_group hi
    obtain ⟨text, hread⟩ := ih
    refine ⟨arguments ++ text, fun rest => ?_⟩
    rw [List.cons_append, List.append_assoc, List.cons_append, harguments, hread,
      String.append_assoc]

theorem TypeRest.idle {ts : List Token} (h : TypeRest ts) : Idle ts := by
  induction h with
  | nil => exact .nil
  | @word t ts ht _ ih =>
    obtain ⟨w, -, hword⟩ := List.any_eq_true.1 ht
    obtain ⟨s, rfl, -⟩ := Token.isWord_eq_true.1 hword
    exact .token (by simp) (by simp) (by simp) (by simp) ih
  | brackets _ ih => exact .token (by simp) (by simp) (by simp) (by simp) ih
  | arguments hi _ ih => exact .group hi ih

/-- A column stays the same with an array suffix at its type, apart from the suffix. -/
theorem readClause_brackets {n u : Token} {ts rest : List Token} {c : ColumnClause}
    (hts : TypeRest ts) (hrest : endsType rest = true)
    (h : readClause (n :: u :: (ts ++ rest)) = .ok (.column c)) :
    readClause (n :: u :: (ts ++ .brackets :: rest))
      = .ok (.column { c with declared := c.declared ++ "[]" }) := by
  have hcolumn := readClause_insert h hts.idle (t := .brackets) (by simp) rfl []
  rw [List.cons_append, List.nil_append] at hcolumn
  obtain ⟨hname, w, hword⟩ := names_of_readClause h
  obtain ⟨text, htail⟩ := declaredTail_typeRest hts
  have hplain := declaredTail_of_endsType hrest
  have hsuffix : declaredTail 0 (.brackets :: rest) = ("[]", rest) := by
    simp [declaredTail, hplain, Token.text]
  have hread := columnClause_of_readClause h
  rw [columnClause_eq hname hword, htail, hplain, String.append_empty] at hread
  rw [hcolumn, columnClause_eq hname hword, htail, hsuffix, ← String.append_assoc]
  cases hmodifiers : modifiers ⟨c.name, w ++ text, false, false, none⟩ rest with
  | error p =>
    rw [hmodifiers] at hread
    cases hread
  | ok c' =>
    rw [hmodifiers] at hread
    cases hread
    have hdeclared := (modifiers_spec hmodifiers).2
    -- The suffix may as well be put at the declared type once the modifiers are read.
    have hmap := modifiers_map (fun c => { c with declared := w ++ text ++ "[]" })
      (fun _ => rfl) (fun _ => rfl) (fun _ _ => rfl) ⟨c.name, w ++ text, false, false, none⟩ rest
    rw [hmodifiers] at hmap
    rw [hmap, hdeclared]
    rfl

/-- **Arrays of aliased types lose their suffix.** The canonical name of a declaration with an array
suffix is that of the declaration without it, and the suffix, exactly if all groups are closed
before it and no alias occurs in the declaration. Otherwise the two have the same canonical name:
the array cannot be told from its elements. The suffix has been read up to there: a column with an
array suffix at its type is read as the same column, with the suffix at the declared type. -/
theorem normalizeType_array (d : Dialect) (declared : String) :
    (normalizeType d (declared ++ "[]") = normalizeType d declared ++ "[]" ↔
        GroupsClosed declared.toList ∧ ¬ Aliased d declared) ∧
      (normalizeType d (declared ++ "[]") = normalizeType d declared ↔
        (GroupsClosed declared.toList → Aliased d declared)) ∧
      ∀ {n u : Token} {ts rest : List Token} {c : ColumnClause}, c.declared = declared →
        TypeRest ts → endsType rest = true →
        readClause (n :: u :: (ts ++ rest)) = .ok (.column c) →
          readClause (n :: u :: (ts ++ .brackets :: rest))
            = .ok (.column { c with declared := declared ++ "[]" }) := by
  have hne : ∀ s : String, s ≠ s ++ "[]" := fun s h => by simpa using congrArg String.length h
  refine ⟨⟨fun hkept => ?_, fun h => normalizeType_brackets_kept h.1 h.2⟩,
    ⟨fun hlost hclosed => ?_, normalizeType_brackets_lost⟩, ?_⟩
  · refine Classical.not_imp.1 fun hlost => ?_
    rw [normalizeType_brackets_lost hlost] at hkept
    exact hne _ hkept
  · by_contra halias
    rw [normalizeType_brackets_kept hclosed halias] at hlost
    exact hne _ hlost.symm
  · rintro n u ts rest c rfl hts hrest h
    exact readClause_brackets hts hrest h

theorem normalizeType_array_integer :
    normalizeType .postgresql "INTEGER[]" = "INT" ∧
      normalizeType .postgresql "numeric (10, 2)[]" = "NUMERIC[]" ∧
      readClause [.word "totals", .word "INTEGER", .brackets, .keyword .not, .keyword .null]
        = .ok (.column ⟨"totals", "INTEGER[]", false, true, none⟩) := by
  have halias : Aliased .postgresql "INTEGER" :=
    ⟨("INTEGER", "INT"), by decide, (hasPart_iff _ _).1 (by decide +kernel)⟩
  have hplain : ¬ Aliased .postgresql "numeric (10, 2)" := by
    rw [← isSome_findAlias?_iff]
    decide +kernel
  have hclosed : GroupsClosed "numeric (10, 2)".toList :=
    (openGroups_eq_zero_iff 0 _).1 (by decide) |>.1
  obtain ⟨-, hsame, hread⟩ := normalizeType_array .postgresql "INTEGER"
  have hkept := (normalizeType_array .postgresql "numeric (10, 2)").1.2 ⟨hclosed, hplain⟩
  have hinteger : normalizeType .postgresql "INTEGER" = "INT" := by decide +kernel
  have hnumeric : normalizeType .postgresql "numeric (10, 2)" = "NUMERIC" := by decide +kernel
  have hcolumn : readClause [.word "totals", .word "INTEGER", .keyword .not, .keyword .null]
      = .ok (.column ⟨"totals", "INTEGER", false, true, none⟩) := by
    simp [readClause, show isReserved (.word "totals") = false by decide, columnClause, columnName?,
      Token.name?, declaredTail, show continuesType (.keyword .not) = false by decide, modifiers,
      Except.map]
  rw [hnumeric] at hkept
  exact ⟨(hsame.2 fun _ => halias).trans hinteger, hkept,
    hread rfl .nil rfl hcolumn⟩

end SchemaGraph.Sql
