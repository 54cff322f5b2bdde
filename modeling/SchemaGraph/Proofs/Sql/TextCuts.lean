import SchemaGraph.Proofs.Sql.ClosedText

/-!
# Cutting a text at its signs

Each comma and each parenthesis among the tokens of a text is a character of it. The texts before
and after that character have the tokens before and after the sign, and nothing is left open before
it (`exists_cut`). For whatever would go on over a semicolon goes on over such a character as well,
so that it would not be a sign.
-/

namespace SchemaGraph.Sql

/-- A comma or a parenthesis. -/
def isDelimiter (c : Char) : Bool := c == '(' || c == ')' || c == ','

/-- The token of such a character. -/
def Token.isDelimiter : Token → Bool
  | leftParen | rightParen | comma => true
  | _ => false

theorem separates_of_isDelimiter {c : Char} (h : isDelimiter c = true) :
    separates c = true := by
  unfold isDelimiter at h
  unfold separates
  simp only [Bool.or_eq_true] at h ⊢
  tauto

/-! ## What goes on over a semicolon -/

section
variable {d : Char} {rest : List Char}

theorem dropLine_over {text : List Char} (h : '\n' ∉ text) (hd : d ≠ '\n') :
    dropLine (text ++ d :: rest) <:+ rest := by
  induction text with
  | nil =>
    rw [List.nil_append, dropLine, if_neg hd]
    exact dropLine_suffix rest
  | cons c text ih =>
    rw [List.mem_cons, not_or] at h
    rw [List.cons_append, dropLine, if_neg (Ne.symm h.1)]
    exact ih h.2

theorem dropBlock_over {text : List Char} {star : Bool} (h : dropBlock star (text ++ [';']) = []) :
    dropBlock star (text ++ d :: rest) <:+ rest := by
  induction text generalizing star with
  | nil =>
    rw [List.nil_append, dropBlock]
    split
    · exact List.suffix_refl _
    · exact dropBlock_suffix _ rest
  | cons c text ih =>
    rw [List.cons_append, dropBlock] at h ⊢
    split at h
    · simp at h
    · rename_i hend
      rw [if_neg hend]
      exact ih h

theorem quotedBody_over {close : Char} (hclose : separates close = false) (hd : separates d = true)
    {text : List Char} (h : (quotedBody close (text ++ [';'])).2 = []) :
    (quotedBody close (text ++ d :: rest)).2 <:+ rest := by
  have hsemicolon : ';' ≠ close := ne_of_separates (by decide) hclose
  have hne : d ≠ close := ne_of_separates hd hclose
  have hsign : (quotedBody close (d :: rest)).2 <:+ rest := by
    cases rest with
    | nil => simp [quotedBody, hne]
    | cons e rest =>
      rw [quotedBody, if_neg hne]
      exact quotedBody_suffix close _
  fun_induction quotedBody close text with
  | case1 => exact hsign
  | case2 => simp [quotedBody, hsemicolon] at h
  | case3 c hc =>
    rw [List.singleton_append, quotedBody, if_neg hc]
    exact hsign
  | case4 text body after hread ih =>
    simp only [List.cons_append, quotedBody, if_true] at h ⊢
    exact ih h
  | case5 c text hc => simp [quotedBody, hc] at h
  | case6 c e text hc body after hread ih =>
    simp only [List.cons_append, quotedBody, if_neg hc] at h ⊢
    exact ih h

theorem literalBody_over {escapes : Bool} (hd : separates d = true) {text : List Char}
    (h : (literalBody escapes (text ++ [';'])).2 = []) :
    (literalBody escapes (text ++ d :: rest)).2 <:+ rest := by
  have hne : d ≠ '\'' := ne_of_separates hd (by decide)
  have hslash : d ≠ '\\' := ne_of_separates hd (by decide)
  have hsign : (literalBody escapes (d :: rest)).2 <:+ rest := by
    cases rest with
    | nil => simp [literalBody, hne, hslash]
    | cons e rest =>
      rw [literalBody, if_neg hne, if_neg (by simp [hslash])]
      exact literalBody_suffix escapes _
  fun_induction literalBody escapes text with
  | case1 => exact hsign
  | case2 => simp [literalBody] at h
  | case3 c hc hescape =>
    rw [List.singleton_append, literalBody, if_neg hc, if_pos hescape]
    exact literalBody_suffix escapes rest
  | case4 c hc hescape =>
    rw [List.singleton_append, literalBody, if_neg hc, if_neg hescape]
    exact hsign
  | case5 text body after hread ih =>
    simp only [List.cons_append, literalBody, if_true] at h ⊢
    exact ih h
  | case6 c text hc => simp [literalBody, hc] at h
  | case7 c e text hc hescape body after hread ih =>
    simp only [List.cons_append, literalBody, if_neg hc, if_pos hescape] at h ⊢
    exact ih h
  | case8 c e text hc hescape body after hread ih =>
    simp only [List.cons_append, literalBody, if_neg hc, if_neg hescape] at h ⊢
    exact ih h

/-! ## Lexemes that go on over a semicolon -/

theorem Enclosure.after_over {escapes : Bool} {c : Char} {text inner : List Char} {e : Enclosure}
    (h : Opens escapes c text e inner) (hd : separates d = true)
    (hswallowed : e.after (inner ++ [';']) = []) : e.after (inner ++ d :: rest) <:+ rest := by
  cases h with
  | comment => exact dropBlock_over hswallowed
  | brackets => exact quotedBody_over (by decide) hd hswallowed
  | name hc =>
    refine quotedBody_over ?_ hd hswallowed
    rcases hc with rfl | rfl <;> decide
  | literal => exact literalBody_over hd hswallowed
  | marked => exact literalBody_over hd hswallowed

theorem Opens.append {escapes : Bool} {c : Char} {text inner : List Char} {e : Enclosure}
    (h : Opens escapes c text e inner) (hd : isDelimiter d = true) (rest : List Char) :
    Opens escapes c (text ++ d :: rest) e (inner ++ d :: rest) := by
  cases h with
  | comment => exact .comment _
  | brackets h =>
    refine .brackets ?_
    cases text with
    | nil =>
      have hne : d ≠ ']' := ne_of_separates (separates_of_isDelimiter hd) rfl
      simpa [startsWith] using hne
    | cons _ _ => exact h
  | name hc => exact .name hc _
  | literal => exact .literal _
  | marked hc => exact .marked hc _

end

theorem isWordStart_of_toUpper {c : Char} (h : c.toUpper = 'E') : isWordStart c = true := by
  have hascii : c.toNat < 128 := by
    unfold Char.toUpper at h
    split at h
    · rename_i hlower
      have hz : c.toNat ≤ 122 := by simpa [UInt32.le_iff_toNat_le] using hlower.2
      omega
    · rw [h]
      decide
  exact ascii_cases (P := fun c => c.toUpper = 'E' → isWordStart c = true) (by decide) hascii h

/-- What follows the lexeme of an enclosure is what follows the enclosure. -/
theorem Opens.lexeme {escapes : Bool} {c : Char} {text inner : List Char} {e : Enclosure}
    (h : Opens escapes c text e inner) : (lexeme escapes c text).2 = e.after inner := by
  cases h with
  | comment => rfl
  | brackets h =>
    show (wordOrLiteral escapes '[' text).2 = _
    rw [wordOrLiteral, if_pos rfl, if_neg (by simp [h])]
    rfl
  | name hc => rcases hc with rfl | rfl <;> rfl
  | literal => rfl
  | marked hc inner =>
    rw [lexeme_of_isWordStart (isWordStart_of_toUpper hc), wordLexeme_marked hc]
    rfl

/-- A lexeme that takes a semicolon after the text takes a comma or a parenthesis as well. -/
theorem lexeme_over {escapes : Bool} {c d : Char} {text : List Char}
    (hd : isDelimiter d = true) (h : (lexeme escapes c (text ++ [';'])).2 = [])
    (rest : List Char) :
    (lexeme escapes c (text ++ d :: rest)).2 <:+ rest := by
  rcases opens_of_swallowed h with hline | ⟨e, inner, hopens, hswallowed⟩
  · rw [lexeme_of_opensLine (opensLine_append hline _)] at h ⊢
    refine dropLine_over (newline_not_mem h) ?_
    rintro rfl
    cases hd
  · rw [(hopens.append hd rest).lexeme]
    exact Enclosure.after_over hopens (separates_of_isDelimiter hd) hswallowed

/-! ## Cutting -/

theorem isDelimiter_wordToken (s : String) : (wordToken s).isDelimiter = false := by
  unfold wordToken
  split <;> rfl

/-- No name, literal, number or word is a comma or a parenthesis. -/
theorem isDelimiter_wordOrLiteral {escapes : Bool} {c : Char} {rest : List Char} {t : Token}
    (h : (wordOrLiteral escapes c rest).1 = some t) : t.isDelimiter = false := by
  unfold wordOrLiteral at h
  split at h
  · split at h <;> cases h <;> rfl
  split at h
  · cases h
    rfl
  split at h
  · cases h
    rfl
  split at h
  · cases h
    rfl
  split at h
  · cases h
    rfl
  split at h
  · unfold wordLexeme at h
    dsimp only at h
    split at h <;> cases h
    · rfl
    · exact isDelimiter_wordToken _
  · cases h

/-- A lexeme that is a comma or a parenthesis is the character. -/
theorem lexeme_sign {escapes : Bool} {c : Char} {rest : List Char} {t : Token}
    (ht : t.isDelimiter = true) (h : (lexeme escapes c rest).1 = some t) :
    sign? c = some t ∧ (lexeme escapes c rest).2 = rest := by
  unfold lexeme at h ⊢
  cases hlayout : dropLayout? c rest with
  | some after =>
    rw [hlayout] at h
    cases h
  | none =>
    rw [hlayout] at h
    cases hsign : sign? c with
    | some t' =>
      rw [hsign] at h
      exact ⟨h, rfl⟩
    | none =>
      rw [hsign] at h
      rw [isDelimiter_wordOrLiteral h] at ht
      cases ht

theorem isDelimiter_of_sign {c : Char} {t : Token} (h : sign? c = some t)
    (ht : t.isDelimiter = true) : isDelimiter c = true := by
  unfold sign? at h
  split at h <;> cases h <;> first | rfl | cases ht

/-- What is complete stays so with a lexeme before it. -/
theorem complete_cons {escapes : Bool} {c d : Char} {rest a b : List Char}
    (hd : isDelimiter d = true) (ha : Complete escapes a)
    (h : (lexeme escapes c rest).2 = a ++ d :: b) :
    ∃ used, rest = used ++ a ++ d :: b ∧ Complete escapes (c :: (used ++ a)) ∧
      tokens escapes (c :: (used ++ a)) = (lexeme escapes c rest).1.toList ++ tokens escapes a := by
  obtain ⟨used, hused⟩ := lexeme_suffix escapes c rest
  rw [h, ← List.append_assoc] at hused
  rcases lexeme_append_or (c := c) escapes (used ++ a) with hsettles | ⟨-, hopen, -⟩
  · have hread := hsettles (d :: b)
      (Or.inr (by simpa using separates_of_isDelimiter hd))
    rw [hused] at hread
    have hafter : (lexeme escapes c (used ++ a)).2 = a := by
      rw [hread] at h
      exact List.append_cancel_right h
    have htokens : tokens escapes (c :: (used ++ a))
        = (lexeme escapes c rest).1.toList ++ tokens escapes a := by
      rw [tokens_cons, hafter, hread]
    refine ⟨used, hused.symm, ?_, htokens⟩
    unfold Complete at ha ⊢
    rw [List.cons_append, tokens_cons, hsettles _ (apart_semicolon _), hafter, ha, htokens, hread,
      List.append_assoc]
  · -- the lexeme would go on over the sign
    have hover := (lexeme_over hd hopen b).length_le
    rw [hused, h, List.length_append, List.length_cons] at hover
    omega

/-- A text is cut at each of its commas and parentheses. -/
theorem exists_cut {escapes : Bool} {text : List Char} {xs ys : List Token} {t : Token}
    (ht : t.isDelimiter = true) (h : tokens escapes text = xs ++ t :: ys) :
    ∃ a c b, text = a ++ c :: b ∧ sign? c = some t ∧ Complete escapes a ∧
      tokens escapes a = xs ∧ tokens escapes b = ys := by
  fun_induction tokens escapes text generalizing xs with
  | case1 => simp at h
  | case2 c rest step =>
    rename_i ih
    -- the sign is among the tokens after the lexeme
    have hlater : ∀ xs', tokens escapes step.2 = xs' ++ t :: ys → step.1.toList ++ xs' = xs →
        ∃ a d b, c :: rest = a ++ d :: b ∧ sign? d = some t ∧ Complete escapes a ∧
          tokens escapes a = xs ∧ tokens escapes b = ys := by
      intro xs' hxs' hxs
      obtain ⟨a, d, b, hcut, hd, ha, hbefore, hafter⟩ := ih hxs'
      obtain ⟨used, hrest, hcomplete, htokens⟩ :=
        complete_cons (isDelimiter_of_sign hd ht) ha hcut
      refine ⟨c :: (used ++ a), d, b, ?_, hd, hcomplete, ?_, hafter⟩
      · rw [hrest, List.cons_append]
      · rw [htokens, hbefore]
        exact hxs
    cases hone : step.1 with
    | none =>
      rw [hone] at h hlater
      exact hlater xs h rfl
    | some u =>
      rw [hone] at h hlater
      cases xs with
      | nil =>
        obtain ⟨rfl, htail⟩ := List.cons.inj h
        obtain ⟨hsign, hrest⟩ := lexeme_sign ht hone
        refine ⟨[], c, rest, rfl, hsign, ?_, tokens_nil escapes, ?_⟩
        · exact (tokens_semicolon []).trans (by rw [tokens_nil]; rfl)
        · rw [← hrest]
          exact htail
      | cons x xs =>
        obtain ⟨rfl, htail⟩ := List.cons.inj h
        exact hlater xs htail rfl

end SchemaGraph.Sql
