import SchemaGraph.Proofs.Sql.LocalReaders
import SchemaGraph.Proofs.Sql.CompleteText

/-!
# One character of lookahead

Where a lexeme ends depends on its own characters and on the one after it. What stands further on
makes no difference: every reader of characters is local, and so is the one of lexemes
(`Local.lexeme`).
-/

namespace SchemaGraph.Sql

namespace Local

/-! ## Pieces of a lexeme -/

theorem dropLine : Local (taking dropLine) := by
  intro cs
  induction cs with
  | nil => exact .nil rfl
  | cons c cs ih =>
    by_cases hc : c = '\n'
    · exact .take (a := ()) fun more => by rw [taking, Sql.dropLine, if_pos hc]
    · exact .cons (f := id) (fun more => by rw [taking, Sql.dropLine, if_neg hc]; rfl) ih

theorem dropBlock (star : Bool) : Local (taking (dropBlock star)) := by
  intro cs
  induction cs generalizing star with
  | nil => exact .nil rfl
  | cons c cs ih =>
    by_cases hc : (star && c = '/') = true
    · exact .take (a := ()) fun more => by rw [taking, Sql.dropBlock, if_pos hc]
    · exact .cons (f := id) (fun more => by rw [taking, Sql.dropBlock, if_neg hc]; rfl) (ih _)

/-- After the closing quote the reader looks for a second one. -/
theorem quotedBody (close : Char) : Local (quotedBody close) := by
  intro cs
  have hquote : ∀ {cs}, LocalAt (fun more => Sql.quotedBody close (close :: more)) cs →
      LocalAt (Sql.quotedBody close) (close :: cs) := fun h => .cons (f := id) (fun more => rfl) h
  have hplain : ∀ {c cs}, c ≠ close → LocalAt (Sql.quotedBody close) cs →
      LocalAt (Sql.quotedBody close) (c :: cs) := by
    intro c cs hc h
    refine .cons (f := (c :: ·)) (fun more => ?_) h
    cases more <;> simp [Sql.quotedBody, hc]
  fun_induction Sql.quotedBody close cs with
  | case1 => exact .nil rfl
  | case2 => exact hquote (.nil (by simp [Sql.quotedBody]))
  | case3 c hc => exact hplain hc (.nil rfl)
  | case4 cs body after hbody ih =>
    exact hquote (.cons (f := (close :: ·)) (fun more => by simp [Sql.quotedBody]) ih)
  | case5 d cs hd => exact hquote (.stop (a := []) fun more => by simp [Sql.quotedBody, hd])
  | case6 c d cs hc body after hbody ih => exact hplain hc ih

theorem literalBody (escapes : Bool) : Local (literalBody escapes) := by
  intro cs
  have hquote : ∀ {cs}, LocalAt (fun more => Sql.literalBody escapes ('\'' :: more)) cs →
      LocalAt (Sql.literalBody escapes) ('\'' :: cs) := fun h => .cons (f := id) (fun more => rfl) h
  have hplain : ∀ {c cs}, c ≠ '\'' → ¬ (escapes && decide (c = '\\')) = true →
      LocalAt (Sql.literalBody escapes) cs → LocalAt (Sql.literalBody escapes) (c :: cs) := by
    intro c cs hc hslash h
    refine .cons (f := (c :: ·)) (fun more => ?_) h
    cases more <;> simp [Sql.literalBody, hc, hslash]
  fun_induction Sql.literalBody escapes cs with
  | case1 => exact .nil rfl
  | case2 => exact hquote (.nil (by simp [Sql.literalBody]))
  | case3 c hc hslash =>
    exact .cons (f := id) (g := fun more => Sql.literalBody escapes (c :: more)) (fun more => rfl)
      (.nil (by simp [Sql.literalBody, hc, hslash]))
  | case4 c hc hslash => exact hplain hc hslash (.nil rfl)
  | case5 cs body after hbody ih =>
    exact hquote (.cons (f := ('\'' :: ·)) (fun more => by simp [Sql.literalBody]) ih)
  | case6 d cs hd => exact hquote (.stop (a := []) fun more => by simp [Sql.literalBody, hd])
  | case7 c d cs hc hslash body after hbody ih =>
    refine .cons (f := id) (g := fun more => Sql.literalBody escapes (c :: more))
      (fun more => rfl) ?_
    exact .cons (f := (escaped d :: ·)) (fun more => by simp [Sql.literalBody, hc, hslash]) ih
  | case8 c d cs hc hslash body after hbody ih => exact hplain hc hslash ih

theorem numberTail (point : Bool) : Local (numberTail point) := by
  intro cs
  fun_induction Sql.numberTail point cs with
  | case1 => exact .nil rfl
  | case2 point c cs hc digits after hdigits ih =>
    exact .cons (f := (c :: ·)) (fun more => by rw [Sql.numberTail, if_pos hc]) ih
  | case3 point c cs hc hpoint digits after hdigits ih =>
    exact .cons (f := (c :: ·)) (fun more => by rw [Sql.numberTail, if_neg hc, if_pos hpoint]) ih
  | case4 point c cs hc hpoint =>
    exact .stop (a := []) fun more => by rw [Sql.numberTail, if_neg hc, if_neg hpoint]

theorem span (p : Char → Bool) : Local fun cs => (cs.takeWhile p, cs.dropWhile p) := by
  intro cs
  induction cs with
  | nil => exact .nil rfl
  | cons c cs ih =>
    by_cases hc : p c = true
    · exact .cons (f := (c :: ·)) (fun more => by simp [hc]) ih
    · exact .stop (a := []) fun more => by simp [hc]

/-! ## Lexemes -/

theorem quotedLexeme (close : Char) : Local (quotedLexeme close) :=
  (quotedBody close).map fun body => some (Token.quoted (String.ofList body))

theorem literalLexeme (escapes : Bool) : Local (literalLexeme escapes) :=
  (literalBody escapes).map fun body => some (Token.literal (String.ofList body))

theorem numberLexeme (c : Char) : Local (numberLexeme c) :=
  (numberTail false).map fun digits => some (Token.number (String.ofList (c :: digits)))

theorem startsWith_iff {c : Char} {cs : List Char} :
    startsWith c cs = true ↔ cs.head? = some c := by
  rw [startsWith, beq_iff_eq]

theorem ifStartsWith {α : Type} (c : Char) {read other : List Char → α × List Char}
    (h : Local read) (ho : Local other) :
    Local fun cs => if startsWith c cs then read cs.tail else other cs :=
  (h.ifHead (t := c) ho).congr fun cs => by simp only [Sql.ifHead, startsWith_iff]

/-- The reader looks at the character after the word. -/
theorem wordLexeme (c : Char) : Local (wordLexeme c) := by
  have hafter : ∀ word, Local fun rest =>
      if Text.sameWord (String.ofList (c :: word)) "E" && startsWith '\'' rest
      then Sql.literalLexeme true rest.tail
      else (some (wordToken (String.ofList (c :: word))), rest) := by
    intro word
    cases Text.sameWord (String.ofList (c :: word)) "E" with
    | true => exact ifStartsWith '\'' (literalLexeme true) (give _)
    | false => exact give _
  exact ((span isWordChar).andThen hafter).congr fun cs => rfl

theorem wordOrLiteral (escapes : Bool) (c : Char) : Local (wordOrLiteral escapes c) := by
  have hdigit : ∀ {other : List Char → Option Token × List Char}, Local other →
      Local fun cs => if c = '-' && cs.head?.any Char.isDigit then Sql.numberLexeme c cs
        else other cs :=
    fun ho => (numberLexeme c).iteHead (p := fun d => (c = '-' && d.any Char.isDigit) = true) ho
  unfold Sql.wordOrLiteral
  refine (ifStartsWith ']' (give (some Token.brackets)) (quotedLexeme ']')).ite ?_
  refine (quotedLexeme c).ite ((literalLexeme escapes).ite (hdigit ?_))
  exact (numberLexeme c).ite ((wordLexeme c).ite (give none))

/-- The readers of layout come first, then signs, and then what is left. -/
theorem lexeme_eq (escapes : Bool) (c : Char) (rest : List Char) :
    Sql.lexeme escapes c rest =
      if Text.isBlank c then (none, rest)
      else if c = '-' && startsWith '-' rest then (none, Sql.dropLine rest)
      else if c = '#' then (none, Sql.dropLine rest)
      else if c = '/' && startsWith '*' rest then (none, Sql.dropBlock false rest.tail)
      else (sign? c).elim (Sql.wordOrLiteral escapes c rest) fun t => (some t, rest) := by
  unfold Sql.lexeme dropLayout?
  by_cases hblank : Text.isBlank c = true
  · simp only [if_pos hblank]
  by_cases hdash : (c = '-' && startsWith '-' rest) = true
  · simp only [if_neg hblank, if_pos hdash]
  by_cases hhash : c = '#'
  · simp only [if_neg hblank, if_neg hdash, if_pos hhash]
  by_cases hblock : (c = '/' && startsWith '*' rest) = true
  · simp only [if_neg hblank, if_neg hdash, if_neg hhash, if_pos hblock]
  · simp only [if_neg hblank, if_neg hdash, if_neg hhash, if_neg hblock]
    cases sign? c with
    | some t => rfl
    | none => rfl

/-- Where a lexeme ends depends on its characters and the one after it. -/
theorem lexeme (escapes : Bool) (c : Char) : Local (lexeme escapes c) := by
  have hline : Local fun cs => ((none : Option Token), Sql.dropLine cs) :=
    dropLine.map fun _ => none
  have hblock : Local fun cs => ((none : Option Token), Sql.dropBlock false cs) :=
    (dropBlock false).map fun _ => none
  have hsign : Local fun cs =>
      (sign? c).elim (Sql.wordOrLiteral escapes c cs) fun t => (some t, cs) := by
    cases sign? c with
    | some t => exact give (some t)
    | none => exact wordOrLiteral escapes c
  have hcomment : ∀ {other : List Char → Option Token × List Char}, Local other →
      Local fun cs => if c = '/' && startsWith '*' cs then (none, Sql.dropBlock false cs.tail)
        else other cs := by
    intro other ho
    by_cases hc : c = '/'
    · simpa only [hc, decide_true, Bool.true_and] using ifStartsWith '*' hblock ho
    · simpa only [hc, decide_false, Bool.false_and, Bool.false_eq_true, if_false] using ho
  refine Local.congr ?_ (lexeme_eq escapes c)
  refine (give none).ite (iteHead (p := fun d => (c = '-' && d == some '-') = true) hline ?_)
  exact hline.ite (hcomment hsign)

end Local

end SchemaGraph.Sql
