import SchemaGraph.Proofs.Sql.Lexing
import SchemaGraph.Sql.Statement

/-!
# Where the names of a script come from

The lexer makes bare words only of texts that have the form of a word and are no keywords
(`lexed_of_mem_tokens`). Everything after it passes tokens on and makes none, apart from the
parenthesis that closes an open group, so each name of a statement or of a clause is the name of a
token of the script.
-/

namespace SchemaGraph.Sql

/-! ## Tokens -/

/-- If the token is a bare word, it has the form of one, and it is no keyword. -/
def Token.Lexed (t : Token) : Prop :=
  ∀ s, t = .word s → isBareWord s = true ∧ Keyword.ofWord? s = none

theorem Token.lexed_of_ne_word {t : Token} (h : ∀ s, t ≠ .word s) : t.Lexed :=
  fun s hs => absurd hs (h s)

theorem lexed_wordToken {s : String} (h : isBareWord s = true) : (wordToken s).Lexed := by
  intro w hw
  unfold wordToken at hw
  split at hw
  · cases hw
  · rename_i hkey
    cases hw
    exact ⟨h, hkey⟩

theorem isBareWord_takeWhile {c : Char} (h : isWordStart c = true) (rest : List Char) :
    isBareWord (String.ofList (c :: rest.takeWhile isWordChar)) = true := by
  rw [isBareWord_iff]
  exact ⟨c, _, String.toList_ofList, h, List.all_takeWhile⟩

theorem lexed_sign {c : Char} {t : Token} (h : sign? c = some t) : t.Lexed := by
  refine Token.lexed_of_ne_word ?_
  rintro s rfl
  unfold sign? at h
  split at h <;> cases h

section
variable {escapes : Bool} {c : Char} {rest : List Char} {t : Token}

theorem lexed_wordLexeme (hc : isWordStart c = true) (h : (wordLexeme c rest).1 = some t) :
    t.Lexed := by
  unfold wordLexeme at h
  dsimp only at h
  split at h
  · cases h
    exact Token.lexed_of_ne_word (by simp)
  · cases h
    exact lexed_wordToken (isBareWord_takeWhile hc rest)

theorem lexed_wordOrLiteral (h : (wordOrLiteral escapes c rest).1 = some t) : t.Lexed := by
  have hother : ∀ {u : Token}, (∀ s, u ≠ .word s) → some u = some t → t.Lexed := by
    rintro u hu ⟨⟩
    exact Token.lexed_of_ne_word hu
  unfold wordOrLiteral at h
  split at h
  · split at h
    · exact hother (by simp) h
    · exact hother (by simp) h
  split at h
  · exact hother (by simp) h
  split at h
  · exact hother (by simp) h
  split at h
  · exact hother (by simp) h
  split at h
  · exact hother (by simp) h
  split at h
  · exact lexed_wordLexeme ‹_› h
  · cases h

theorem lexed_lexeme (h : (lexeme escapes c rest).1 = some t) : t.Lexed := by
  unfold lexeme at h
  split at h
  · cases h
  · split at h
    · cases h
      exact lexed_sign ‹_›
    · exact lexed_wordOrLiteral h

end

/-- The lexer makes bare words of words only. -/
theorem lexed_of_mem_tokens {escapes : Bool} {cs : List Char} :
    ∀ t ∈ tokens escapes cs, t.Lexed := by
  fun_induction tokens escapes cs with
  | case1 => simp
  | case2 c rest step ih =>
    intro t ht
    rcases List.mem_append.1 ht with ht | ht
    · exact lexed_lexeme (Option.mem_toList.1 ht)
    · exact ih t ht

/-- The name that a token gives is not blank. -/
theorem allBlank_of_name? {t : Token} (h : t.Lexed) {name : String} (hn : t.name? = some name) :
    Text.allBlank name = false := by
  cases t with
  | word s =>
    cases hn
    exact allBlank_of_isBareWord (h _ rfl).1
  | quoted s =>
    unfold Token.name? at hn
    dsimp only at hn
    split at hn
    · cases hn
    · rename_i hblank
      cases hn
      simpa using hblank
  | _ => cases hn

theorem allBlank_of_columnName? {t : Token} (h : t.Lexed) {name : String}
    (hn : columnName? t = some name) : Text.allBlank name = false := by
  unfold columnName? at hn
  split at hn
  · cases hn
    decide
  · cases hn
    decide
  · exact allBlank_of_name? h hn

/-! ## Statements -/

theorem skipKeyword_subset (k : Keyword) (ts : List Token) : skipKeyword k ts ⊆ ts := by
  unfold skipKeyword
  split
  · split
    · exact List.subset_cons_self ..
    · exact List.Subset.refl _
  · exact List.Subset.refl _

theorem skipStatement_subset (ts : List Token) : skipStatement ts ⊆ ts := by
  fun_induction skipStatement ts with
  | case1 => exact List.Subset.refl _
  | case2 rest => exact List.subset_cons_self ..
  | case3 rest => exact List.Subset.refl _
  | case4 rest => exact List.Subset.refl _
  | case5 t rest _ _ _ ih => exact List.Subset.trans ih (List.subset_cons_self ..)

theorem qualifiedTail_spec (name : String) (ts : List Token) :
    ((qualifiedTail name ts).1 = name ∨
        ∃ t ∈ ts, t.name? = some (qualifiedTail name ts).1) ∧
      (qualifiedTail name ts).2 ⊆ ts := by
  fun_induction qualifiedTail name ts with
  | case1 name t rest part hpart ih =>
    obtain ⟨hname, hsub⟩ := ih
    refine ⟨Or.inr ?_, fun u hu => List.mem_cons_of_mem _ (List.mem_cons_of_mem _ (hsub hu))⟩
    rcases hname with hname | ⟨u, hu, hname⟩
    · exact ⟨t, by simp, by rw [hname, hpart]⟩
    · exact ⟨u, List.mem_cons_of_mem _ (List.mem_cons_of_mem _ hu), hname⟩
  | case2 name t rest hnone => exact ⟨Or.inl rfl, List.subset_cons_self ..⟩
  | case3 name => exact ⟨Or.inl rfl, List.nil_subset _⟩
  | case4 name ts _ _ => exact ⟨Or.inl rfl, List.Subset.refl _⟩

/-- A name with qualifiers is the name of one of its tokens. -/
theorem qualifiedName?_spec {ts rest : List Token} {name : String}
    (h : qualifiedName? ts = some (name, rest)) :
    (∃ t ∈ ts, t.name? = some name) ∧ rest ⊆ ts := by
  unfold qualifiedName? at h
  split at h
  · cases h
  · rename_i t more
    rw [Option.map_eq_some_iff] at h
    obtain ⟨first, hfirst, htail⟩ := h
    obtain ⟨hname, hsub⟩ := qualifiedTail_spec first more
    rw [htail] at hname hsub
    dsimp only at hname hsub
    refine ⟨?_, List.Subset.trans hsub (List.subset_cons_self ..)⟩
    rcases hname with hname | ⟨u, hu, hname⟩
    · exact ⟨t, List.mem_cons_self .., by rw [hname, hfirst]⟩
    · exact ⟨u, List.mem_cons_of_mem _ hu, hname⟩

theorem balancedGroup_subset (depth : Nat) (ts : List Token) :
    (balancedGroup depth ts).inside ⊆ ts ∧ (balancedGroup depth ts).after ⊆ ts := by
  have hpush : ∀ {t : Token} {g : Group} {rest : List Token}, g.inside ⊆ rest ∧ g.after ⊆ rest →
      (g.push t).inside ⊆ t :: rest ∧ (g.push t).after ⊆ t :: rest := by
    intro t g rest h
    exact ⟨List.cons_subset_cons t h.1, List.Subset.trans h.2 (List.subset_cons_self ..)⟩
  fun_induction balancedGroup depth ts with
  | case1 => exact ⟨List.Subset.refl _, List.Subset.refl _⟩
  | case2 depth rest ih => exact hpush ih
  | case3 rest => exact ⟨List.nil_subset _, List.subset_cons_self ..⟩
  | case4 depth rest _ _ ih => exact hpush ih
  | case5 depth t rest _ _ ih => exact hpush ih

theorem pushFirst_mem {t : Token} {lists : List (List Token)} {clause : List Token}
    (h : clause ∈ pushFirst t lists) :
    clause ∈ lists ∨ clause = [t] ∨ ∃ c ∈ lists, clause = t :: c := by
  cases lists with
  | nil => exact Or.inr (Or.inl (List.mem_singleton.1 h))
  | cons first more =>
    rcases List.mem_cons.1 h with rfl | h
    · exact Or.inr (Or.inr ⟨first, List.mem_cons_self .., rfl⟩)
    · exact Or.inl (List.mem_cons_of_mem _ h)

theorem stretches_subset (depth : Nat) (ts : List Token) : ∀ c ∈ stretches depth ts, c ⊆ ts := by
  fun_induction stretches depth ts with
  | case1 => simp
  | case2 depth t rest _ ih =>
    intro c hc
    rcases List.mem_cons.1 hc with rfl | hc
    · exact List.nil_subset _
    · exact List.Subset.trans (ih c hc) (List.subset_cons_self ..)
  | case3 depth t rest _ ih =>
    intro c hc
    rcases pushFirst_mem hc with hc | rfl | ⟨d, hd, rfl⟩
    · exact List.Subset.trans (ih c hc) (List.subset_cons_self ..)
    · simp
    · exact List.cons_subset_cons t (ih d hd)

theorem splitClauses_subset (ts : List Token) : ∀ c ∈ splitClauses ts, c ⊆ ts := by
  intro c hc
  exact stretches_subset 0 ts c (List.mem_filter.1 hc).1

/-- Actions may end with a parenthesis of their own, which closes an open group. -/
theorem actionTokens_subset (depth : Nat) (ts : List Token) :
    (actionTokens depth ts).1 ⊆ .rightParen :: ts ∧ (actionTokens depth ts).2 ⊆ ts := by
  fun_induction actionTokens depth ts with
  | case1 depth =>
    refine ⟨?_, List.Subset.refl _⟩
    split <;> simp
  | case2 depth t rest _ => exact ⟨List.nil_subset _, List.subset_cons_self ..⟩
  | case3 depth t rest _ _ => exact ⟨List.nil_subset _, List.Subset.refl _⟩
  | case4 depth t rest _ _ actions after hread ih =>
    rw [hread] at ih
    refine ⟨?_, List.Subset.trans ih.2 (List.subset_cons_self ..)⟩
    intro u hu
    rcases List.mem_cons.1 hu with rfl | hu
    · simp
    · rcases List.mem_cons.1 (ih.1 hu) with rfl | hu
      · simp
      · simp [hu]

/-- After a word, two more may be passed over. -/
theorem skipKeywords_subset (j k : Keyword) (t : Token) (rest : List Token) :
    skipKeyword j (skipKeyword k rest) ⊆ t :: rest := by
  have hskip := List.Subset.trans (skipKeyword_subset j (skipKeyword k rest))
    (skipKeyword_subset k rest)
  exact List.Subset.trans hskip (List.subset_cons_self ..)

theorem skipIfNotExists_subset (ts : List Token) : skipIfNotExists ts ⊆ ts := by
  unfold skipIfNotExists
  split
  · exact skipKeywords_subset ..
  · exact List.Subset.refl _

theorem skipIfExistsOnly_subset (ts : List Token) : skipIfExistsOnly ts ⊆ ts := by
  unfold skipIfExistsOnly
  split
  · exact skipKeywords_subset ..
  · exact skipKeyword_subset _ _

namespace Statement

/-- The statement is made of tokens with the property. -/
def MadeOf (P : Token → Prop) : Statement → Prop
  | createTable name body _ => (∃ t, P t ∧ t.name? = some name) ∧ ∀ t ∈ body, P t
  | nameless _ => True
  | bodiless name => ∃ t, P t ∧ t.name? = some name
  | alterTable name actions =>
    (∃ t, P t ∧ t.name? = some name) ∧ ∀ a ∈ actions, ∀ t ∈ a, P t

end Statement

section
variable {P : Token → Prop} {ts : List Token}

theorem createTable_madeOf (h : ∀ t ∈ ts, P t) :
    (createTable ts).1.MadeOf P ∧ (createTable ts).2 ⊆ ts := by
  have hif := skipIfNotExists_subset ts
  unfold createTable
  dsimp only
  split
  · exact ⟨trivial, List.Subset.trans (skipStatement_subset _) hif⟩
  · rename_i name rest hq
    obtain ⟨⟨t, ht, hname⟩, hrest⟩ := qualifiedName?_spec hq
    have hbody := List.Subset.trans (List.subset_cons_self .leftParen rest) hrest
    have hsub := List.Subset.trans hbody hif
    obtain ⟨hin, hafter⟩ := balancedGroup_subset 0 rest
    exact ⟨⟨⟨t, h t (hif ht), hname⟩, fun u hu => h u (hsub (hin hu))⟩,
      List.Subset.trans (skipStatement_subset _) (List.Subset.trans hafter hsub)⟩
  · rename_i name rest _ hq
    obtain ⟨⟨t, ht, hname⟩, hrest⟩ := qualifiedName?_spec hq
    exact ⟨⟨t, h t (hif ht), hname⟩,
      List.Subset.trans (skipStatement_subset _) (List.Subset.trans hrest hif)⟩

theorem alterTable_madeOf (hp : P .rightParen) (h : ∀ t ∈ ts, P t) :
    (∀ s ∈ (alterTable ts).1, s.MadeOf P) ∧ (alterTable ts).2 ⊆ ts := by
  unfold alterTable
  split
  · rename_i rest
    have hif := List.Subset.trans (skipIfExistsOnly_subset rest)
      (List.subset_cons_self (.keyword .table) rest)
    dsimp only
    split
    · exact ⟨by simp, List.Subset.trans (skipStatement_subset _) hif⟩
    · rename_i name more hq
      obtain ⟨⟨t, ht, hname⟩, hmore⟩ := qualifiedName?_spec hq
      obtain ⟨hactions, hafter⟩ := actionTokens_subset 0 more
      refine ⟨?_, List.Subset.trans hafter (List.Subset.trans hmore hif)⟩
      rintro s ⟨⟩
      refine ⟨⟨t, h t (hif ht), hname⟩, fun a ha u hu => ?_⟩
      rcases List.mem_cons.1 (hactions (splitClauses_subset _ a ha hu)) with rfl | hu
      · exact hp
      · exact h u (hif (hmore hu))
  · exact ⟨by simp, skipStatement_subset _⟩

theorem createStatement_madeOf (h : ∀ t ∈ ts, P t) :
    (∀ s ∈ (createStatement ts).1, s.MadeOf P) ∧ (createStatement ts).2 ⊆ ts := by
  have hmods : skipTableModifiers ts ⊆ ts := (List.dropWhile_sublist _).subset
  unfold createStatement
  split
  · rename_i rest heq
    have hsub : rest ⊆ ts := by
      rw [heq] at hmods
      exact List.Subset.trans (List.subset_cons_self ..) hmods
    obtain ⟨hmade, hafter⟩ := createTable_madeOf fun t ht => h t (hsub ht)
    refine ⟨?_, List.Subset.trans hafter hsub⟩
    rintro s ⟨⟩
    exact hmade
  · exact ⟨by simp, List.Subset.trans (skipStatement_subset _) hmods⟩

/-- The statements are made of the tokens, and of closing parentheses. -/
theorem statements_madeOf (hp : P .rightParen) (h : ∀ t ∈ ts, P t) :
    ∀ s ∈ statements ts, s.MadeOf P := by
  fun_induction statements ts with
  | case1 => simp
  | case2 rest step ih =>
    rw [List.forall_mem_cons] at h
    obtain ⟨hmade, hafter⟩ := createStatement_madeOf h.2
    intro s hs
    rcases List.mem_append.1 hs with hs | hs
    · exact hmade s (Option.mem_toList.1 hs)
    · exact ih (fun t ht => h.2 t (hafter ht)) s hs
  | case3 rest step ih =>
    rw [List.forall_mem_cons] at h
    obtain ⟨hmade, hafter⟩ := alterTable_madeOf hp h.2
    intro s hs
    rcases List.mem_append.1 hs with hs | hs
    · exact hmade s (Option.mem_toList.1 hs)
    · exact ih (fun t ht => h.2 t (hafter ht)) s hs
  | case4 t rest _ _ ih => exact ih (List.forall_mem_cons.1 h).2

end

/-- The statements of a text are made of what the lexer makes. -/
theorem statements_lexed (escapes : Bool) (cs : List Char) :
    ∀ s ∈ statements (tokens escapes cs), s.MadeOf Token.Lexed :=
  statements_madeOf (Token.lexed_of_ne_word (by simp)) lexed_of_mem_tokens

/-! ## Clauses -/

/-- Modifiers change neither the name nor the type. -/
theorem modifiers_spec {c c' : ColumnClause} {ts : List Token} (h : modifiers c ts = .ok c') :
    c'.name = c.name ∧ c'.declared = c.declared := by
  fun_induction modifiers c ts <;> simp_all

theorem primaryKeyClause_ne_column {ts : List Token} {c : ColumnClause} :
    primaryKeyClause ts ≠ .ok (.column c) := by
  unfold primaryKeyClause
  cases columnList? (skipKeyword .key ts) <;> simp [Except.map]

theorem foreignKeyClause_ne_column {ts : List Token} {c : ColumnClause} :
    foreignKeyClause ts ≠ .ok (.column c) := by
  unfold foreignKeyClause foreignKeyTarget
  split
  · simp
  · split
    · split
      · simp
      · split <;> simp
    · simp

theorem constraintClause_ne_column {ts : List Token} {c : ColumnClause} :
    constraintClause ts ≠ .ok (.column c) := by
  unfold constraintClause
  split
  · exact primaryKeyClause_ne_column
  · exact foreignKeyClause_ne_column
  · simp

/-- Only clauses about columns are read as columns. -/
theorem columnClause_of_readClause {ts : List Token} {c : ColumnClause}
    (h : readClause ts = .ok (.column c)) : columnClause ts = .ok (.column c) := by
  unfold readClause at h
  split at h
  · exact absurd h constraintClause_ne_column
  · exact absurd h primaryKeyClause_ne_column
  · exact absurd h foreignKeyClause_ne_column
  · cases h
  · cases h
  · split at h
    · cases h
    · exact h
  · split at h
    · cases h
    · exact h
  · split at h
    · cases h
    · exact h
  · exact h

/-- A clause that is read as a column begins with the name of the column and with the first word of
its type. -/
theorem readClause_column {ts : List Token} {c : ColumnClause}
    (h : readClause ts = .ok (.column c)) :
    ∃ t u w rest, ts = t :: u :: rest ∧ columnName? t = some c.name ∧ u.name? = some w ∧
      c.declared = w ++ (declaredTail 0 rest).1 := by
  have hclause := columnClause_of_readClause h
  unfold columnClause at hclause
  split at hclause
  · cases hclause
  · rename_i t rest
    cases hname : columnName? t with
    | none => simp [hname] at hclause
    | some name =>
      rw [hname] at hclause
      dsimp only at hclause
      split at hclause
      · cases hclause
      · rename_i u rest
        cases hword : u.name? with
        | none => simp [hword] at hclause
        | some w =>
          rw [hword] at hclause
          dsimp only at hclause
          cases hm : modifiers ⟨name, w ++ (declaredTail 0 rest).1, false, false, none⟩
              (declaredTail 0 rest).2 with
          | error p => simp [hm, Except.map] at hclause
          | ok c' =>
            rw [hm] at hclause
            cases hclause
            obtain ⟨hn, hd⟩ := modifiers_spec hm
            exact ⟨t, u, w, rest, rfl, by rw [hn, hname], hword, hd⟩

end SchemaGraph.Sql
