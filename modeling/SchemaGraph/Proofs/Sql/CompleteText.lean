import SchemaGraph.Proofs.Sql.Lexing

/-!
# Texts that are read one after the other

A text is complete if a semicolon after it is read as one (`Complete`): no comment, literal or
quoted name is open at its end. If besides the last lexeme of a complete text does not go on in the
text after it (`Apart`), then the two have their own tokens, one after the other (`tokens_append`).

Whatever reader is at work at the end of a text, it either stops there whatever comes next, or it
takes the semicolon for a part of what it reads.
-/

namespace SchemaGraph.Sql

/-! ## Separating characters -/

/-- White space, or a sign that is part of nothing longer. -/
def separates (c : Char) : Bool :=
  Text.isBlank c || c == '(' || c == ')' || c == ',' || c == ';'

/-- The text ends with a separating character, or what follows it begins with one. -/
def Apart (text rest : List Char) : Prop :=
  text.getLast?.any separates = true ∨ rest.head?.all separates = true

theorem isWordChar_of_separates {c : Char} (h : separates c = true) : isWordChar c = false := by
  unfold separates at h
  simp only [Bool.or_eq_true, beq_iff_eq] at h
  rcases h with (((h | rfl) | rfl) | rfl) | rfl
  · exact isWordChar_of_isBlank h
  all_goals decide

/-- A separating character is none of those that belong to longer lexemes. -/
theorem ne_of_separates {c x : Char} (h : separates c = true) (hx : separates x = false) :
    c ≠ x := by
  rintro rfl
  rw [h] at hx
  cases hx

theorem separates_of_isWordChar {c : Char} (h : isWordChar c = true) : separates c = false := by
  rw [← Bool.not_eq_true]
  intro hs
  rw [isWordChar_of_separates hs] at h
  cases h

theorem isWordChar_of_isDigit {c : Char} (h : c.isDigit = true) : isWordChar c = true := by
  have hall := ascii_cases (P := fun c => c.isDigit = true → isWordChar c = true) (by decide)
    (toNat_lt_of_isDigit h)
  exact hall h

theorem separates_of_isDigit {c : Char} (h : c.isDigit = true) : separates c = false :=
  separates_of_isWordChar (isWordChar_of_isDigit h)

theorem isDigit_of_separates {c : Char} (h : separates c = true) : c.isDigit = false := by
  rw [← Bool.not_eq_true]
  intro hd
  rw [separates_of_isDigit hd] at h
  cases h

section
variable {text rest : List Char} {c : Char}

/-- What is apart stays so without the beginning of the text, unless nothing else is left. -/
theorem Apart.of_suffix {back : List Char} (h : Apart text rest) (hs : back <:+ text)
    (hne : back ≠ []) : Apart back rest := by
  obtain ⟨front, rfl⟩ := hs
  have hlast := List.getLast?_eq_some_getLast hne
  unfold Apart at h ⊢
  rwa [List.getLast?_append, hlast, Option.some_or, ← hlast] at h

theorem Apart.tail (h : Apart (c :: text) rest) (hc : separates c = false) : Apart text rest := by
  cases text with
  | nil => exact Or.inr (h.resolve_left (by simp [hc]))
  | cons d text => exact h.of_suffix (List.suffix_cons c _) (List.cons_ne_nil d text)

theorem Apart.separates_head (h : Apart [] (c :: rest)) : separates c = true :=
  h.resolve_left (by simp)

/-- A reader that looks one character ahead sees nothing of its own kind after the text. -/
theorem any_head?_append (h : Apart (c :: text) rest) (hc : separates c = false)
    {p : Char → Bool} (hp : ∀ d, separates d = true → p d = false) :
    (text ++ rest).head?.any p = text.head?.any p := by
  cases text with
  | cons d text => rfl
  | nil =>
    cases rest with
    | nil => rfl
    | cons d rest => exact hp d (h.tail hc).separates_head

theorem startsWith_eq (x : Char) (cs : List Char) :
    startsWith x cs = cs.head?.any fun d => d == x := by
  cases cs <;> rfl

theorem startsWith_append {x : Char} (h : Apart (c :: text) rest) (hc : separates c = false)
    (hx : separates x = false) : startsWith x (text ++ rest) = startsWith x text := by
  rw [startsWith_eq, startsWith_eq]
  refine any_head?_append h hc fun d hd => ?_
  simpa using ne_of_separates hd hx

theorem cons_of_startsWith (h : startsWith c text = true) : ∃ tail, text = c :: tail := by
  cases text with
  | nil => simp [startsWith] at h
  | cons d tail => exact ⟨tail, by simpa [startsWith] using h⟩

end

/-! ## Readers at the end of a text

Where a reader has an alternative, the text is left open to it: it reads the text to its end, and
with it the semicolon that marks the end. -/

theorem dropLine_append_or (text : List Char) :
    (∀ rest, dropLine (text ++ rest) = dropLine text ++ rest) ∨
      (dropLine text = [] ∧ dropLine (text ++ [';']) = []) := by
  induction text with
  | nil => exact Or.inr ⟨rfl, rfl⟩
  | cons c text ih =>
    by_cases hc : c = '\n'
    · exact Or.inl fun rest => by simp [dropLine, hc]
    · simpa [dropLine, hc] using ih

theorem dropBlock_append_or (star : Bool) (text : List Char) :
    (∀ rest, dropBlock star (text ++ rest) = dropBlock star text ++ rest) ∨
      (dropBlock star text = [] ∧ dropBlock star (text ++ [';']) = []) := by
  induction text generalizing star with
  | nil => exact Or.inr ⟨rfl, by simp [dropBlock]⟩
  | cons c text ih =>
    by_cases hc : (star && c = '/') = true
    · exact Or.inl fun rest => by rw [List.cons_append, dropBlock, dropBlock, if_pos hc, if_pos hc]
    · simpa only [List.cons_append, dropBlock, if_neg hc] using ih (c = '*')

theorem quotedBody_append_or {close : Char} (hclose : separates close = false) (text : List Char) :
    (∀ rest, Apart text rest → quotedBody close (text ++ rest)
        = ((quotedBody close text).1, (quotedBody close text).2 ++ rest)) ∨
      ((quotedBody close text).2 = [] ∧ (quotedBody close (text ++ [';'])).2 = []) := by
  have hsemicolon : ';' ≠ close := ne_of_separates (by decide) hclose
  fun_induction quotedBody close text with
  | case1 => exact Or.inr ⟨rfl, by simp [quotedBody, hsemicolon]⟩
  | case2 =>
    refine Or.inl fun rest h => ?_
    cases rest with
    | nil => simp [quotedBody]
    | cons d rest =>
      have hd := ne_of_separates (h.tail hclose).separates_head hclose
      simp [quotedBody, hd]
  | case3 c hc => exact Or.inr ⟨rfl, by simp [quotedBody, hc, hsemicolon]⟩
  | case4 text body after hread ih =>
    rw [hread] at ih
    rcases ih with ih | ⟨hend, hopen⟩
    · refine Or.inl fun rest h => ?_
      simp [quotedBody, ih rest ((h.tail hclose).tail hclose)]
    · exact Or.inr ⟨hend, by simpa [quotedBody] using hopen⟩
  | case5 d text hd => exact Or.inl fun rest _ => by simp [quotedBody, hd]
  | case6 c d text hc body after hread ih =>
    rw [hread] at ih
    rcases ih with ih | ⟨hend, hopen⟩
    · refine Or.inl fun rest h => ?_
      have hnext := ih rest (h.of_suffix (List.suffix_cons c _) (List.cons_ne_nil d text))
      rw [List.cons_append] at hnext
      simp [quotedBody, hc, hnext]
    · exact Or.inr ⟨hend, by simpa [quotedBody, hc] using hopen⟩

theorem literalBody_append_or (escapes : Bool) (text : List Char) :
    (∀ rest, Apart text rest → literalBody escapes (text ++ rest)
        = ((literalBody escapes text).1, (literalBody escapes text).2 ++ rest)) ∨
      ((literalBody escapes text).2 = [] ∧ (literalBody escapes (text ++ [';'])).2 = []) := by
  have hquote : separates '\'' = false := by decide
  fun_induction literalBody escapes text with
  | case1 => exact Or.inr ⟨rfl, by simp [literalBody]⟩
  | case2 =>
    refine Or.inl fun rest h => ?_
    cases rest with
    | nil => simp [literalBody]
    | cons d rest =>
      have hd := ne_of_separates (h.tail hquote).separates_head hquote
      simp [literalBody, hd]
  | case3 c hc hslash => exact Or.inr ⟨rfl, by simp_all [literalBody]⟩
  | case4 c hc hslash =>
    rw [Bool.and_eq_true, decide_eq_true_eq, not_and] at hslash
    by_cases he : escapes = true
    · exact Or.inr ⟨rfl, by simp [literalBody, hc, he, hslash he]⟩
    · exact Or.inr ⟨rfl, by simp [literalBody, hc, he]⟩
  | case5 text body after hread ih =>
    rw [hread] at ih
    rcases ih with ih | ⟨hend, hopen⟩
    · refine Or.inl fun rest h => ?_
      simp [literalBody, ih rest ((h.tail hquote).tail hquote)]
    · exact Or.inr ⟨hend, by simpa [literalBody] using hopen⟩
  | case6 d text hd => exact Or.inl fun rest _ => by simp [literalBody, hd]
  | case7 c d text hc hslash body after hread ih =>
    rw [hread] at ih
    cases text with
    | nil =>
      cases hread
      exact Or.inr ⟨rfl, by simp [literalBody, hc, hslash]⟩
    | cons e text =>
      rcases ih with ih | ⟨hend, hopen⟩
      · refine Or.inl fun rest h => ?_
        have hsuffix : e :: text <:+ c :: d :: e :: text :=
          (List.suffix_cons d _).trans (List.suffix_cons c _)
        have hnext := ih rest (h.of_suffix hsuffix (List.cons_ne_nil e text))
        rw [List.cons_append] at hnext
        simp [literalBody, hc, hslash, hnext]
      · exact Or.inr ⟨hend, by simpa [literalBody, hc, hslash] using hopen⟩
  | case8 c d text hc hslash body after hread ih =>
    rw [hread] at ih
    rcases ih with ih | ⟨hend, hopen⟩
    · refine Or.inl fun rest h => ?_
      have hnext := ih rest (h.of_suffix (List.suffix_cons c _) (List.cons_ne_nil d text))
      rw [List.cons_append] at hnext
      simp [literalBody, hc, hslash, hnext]
    · exact Or.inr ⟨hend, by simpa [literalBody, hc, hslash] using hopen⟩

theorem numberTail_append (point : Bool) {text rest : List Char} (h : Apart text rest) :
    numberTail point (text ++ rest)
      = ((numberTail point text).1, (numberTail point text).2 ++ rest) := by
  fun_induction numberTail point text with
  | case1 =>
    cases rest with
    | nil => simp [numberTail]
    | cons d rest =>
      have hdigit := isDigit_of_separates h.separates_head
      have hpoint : d ≠ '.' := ne_of_separates h.separates_head (by decide)
      simp [numberTail, hdigit, hpoint]
  | case2 point c text hc digits after hread ih =>
    have hnext := ih (h.tail (separates_of_isDigit hc))
    simp [numberTail, hc, hnext, hread]
  | case3 point c text hc hpoint digits after hread ih =>
    have hdot : c = '.' := by simp_all
    have hnext := ih (h.tail (hdot ▸ by decide))
    simp [numberTail, hc, hpoint, hnext, hread]
  | case4 point c text hc hpoint => simp [numberTail, hc, hpoint]

/-- A word at the end of a text does not go on after it, and is not followed by a quote there. -/
theorem span_isWordChar_append {c : Char} {text rest : List Char} (h : Apart (c :: text) rest)
    (hc : separates c = false) :
    (text ++ rest).takeWhile isWordChar = text.takeWhile isWordChar ∧
      (text ++ rest).dropWhile isWordChar = text.dropWhile isWordChar ++ rest ∧
      startsWith '\'' (text.dropWhile isWordChar ++ rest)
        = startsWith '\'' (text.dropWhile isWordChar) := by
  induction text generalizing c with
  | nil =>
    have hquote : startsWith '\'' rest = false := startsWith_append (x := '\'') h hc (by decide)
    cases rest with
    | nil => simp
    | cons d rest =>
      have hd := isWordChar_of_separates (h.tail hc).separates_head
      refine ⟨by simp [hd], by simp [hd], hquote⟩
  | cons d text ih =>
    by_cases hd : isWordChar d = true
    · have hnext := ih (h.tail hc) (separates_of_isWordChar hd)
      simpa [hd] using hnext
    · simp [hd, startsWith]

/-! ## Lexemes at the end of a text -/

/-- After `c` the reader stops at the end of the text whatever follows it there. -/
def Settles (read : List Char → Option Token × List Char) (c : Char) (text : List Char) : Prop :=
  ∀ rest, Apart (c :: text) rest → read (text ++ rest) = ((read text).1, (read text).2 ++ rest)

/-- The reader takes a semicolon after the text for a part of the lexeme. -/
def Swallows (read : List Char → Option Token × List Char) (text : List Char) : Prop :=
  (read text).2 = [] ∧ (read (text ++ [';'])).2 = [] ∧
    (read (text ++ [';'])).1.isSome = (read text).1.isSome

/-- A semicolon is apart from everything. -/
theorem apart_semicolon (text : List Char) : Apart text [';'] := Or.inr rfl

/-- A reader that leaves the rest of its work to another one ends as that does. -/
theorem append_or_trans {read other : List Char → Option Token × List Char} {c d : Char}
    {text tail : List Char} (h : Settles other d tail ∨ Swallows other tail)
    (hapart : ∀ rest, Apart (c :: text) rest → Apart (d :: tail) rest)
    (hread : ∀ rest, Apart (c :: text) rest → read (text ++ rest) = other (tail ++ rest)) :
    Settles read c text ∨ Swallows read text := by
  have htext : read text = other tail := by simpa using hread [] (Or.inr rfl)
  rcases h with h | h
  · refine Or.inl fun rest ha => ?_
    rw [hread rest ha, htext, h rest (hapart rest ha)]
  · rw [Swallows, hread _ (apart_semicolon _), htext]
    exact Or.inr h

section
variable {c : Char}

theorem quotedLexeme_append_or {close : Char} (hclose : separates close = false)
    (hc : separates c = false) (text : List Char) :
    Settles (quotedLexeme close) c text ∨ Swallows (quotedLexeme close) text := by
  rcases quotedBody_append_or hclose text with h | ⟨hend, hopen⟩
  · refine Or.inl fun rest ha => ?_
    simp [quotedLexeme, h rest (ha.tail hc)]
  · exact Or.inr ⟨hend, hopen, rfl⟩

theorem literalLexeme_append_or (escapes : Bool) (hc : separates c = false) (text : List Char) :
    Settles (literalLexeme escapes) c text ∨ Swallows (literalLexeme escapes) text := by
  rcases literalBody_append_or escapes text with h | ⟨hend, hopen⟩
  · refine Or.inl fun rest ha => ?_
    simp [literalLexeme, h rest (ha.tail hc)]
  · exact Or.inr ⟨hend, hopen, rfl⟩

theorem settles_numberLexeme (hc : separates c = false) (text : List Char) :
    Settles (numberLexeme c) c text := by
  intro rest ha
  simp [numberLexeme, numberTail_append false (ha.tail hc)]

theorem wordLexeme_literal {text tail : List Char}
    (hword : Text.sameWord (String.ofList (c :: text.takeWhile isWordChar)) "E" = true)
    (hafter : text.dropWhile isWordChar = '\'' :: tail) :
    wordLexeme c text = literalLexeme true tail := by
  rw [wordLexeme, hword, hafter]
  rfl

/-- The letter `E` before a quote is no word. -/
theorem wordLexeme_marked (hc : c.toUpper = 'E') (inner : List Char) :
    wordLexeme c ('\'' :: inner) = literalLexeme true inner := by
  have hquote : isWordChar '\'' = false := by decide
  exact wordLexeme_literal (by simp [hquote, Text.sameWord, hc]) (by simp [hquote])

theorem wordLexeme_append_or (hc : separates c = false) (text : List Char) :
    Settles (wordLexeme c) c text ∨ Swallows (wordLexeme c) text := by
  by_cases hliteral : (Text.sameWord (String.ofList (c :: text.takeWhile isWordChar)) "E"
      && startsWith '\'' (text.dropWhile isWordChar)) = true
  · -- after the word there is a quote, so the end of the text is that of the literal
    rw [Bool.and_eq_true] at hliteral
    obtain ⟨tail, htail⟩ := cons_of_startsWith hliteral.2
    have hsuffix : '\'' :: tail <:+ c :: text := by
      rw [← htail]
      exact (List.dropWhile_suffix _).trans (List.suffix_cons c text)
    refine append_or_trans (literalLexeme_append_or (c := '\'') true (by decide) tail)
      (fun rest ha => ha.of_suffix hsuffix (List.cons_ne_nil _ _)) fun rest ha => ?_
    obtain ⟨htake, hdrop, -⟩ := span_isWordChar_append ha hc
    refine wordLexeme_literal ?_ ?_
    · rw [htake]
      exact hliteral.1
    · rw [hdrop, htail]
      rfl
  · refine Or.inl fun rest ha => ?_
    obtain ⟨htake, hdrop, hquote⟩ := span_isWordChar_append ha hc
    rw [wordLexeme, wordLexeme, htake, hdrop, hquote, if_neg hliteral, if_neg hliteral]

theorem dropLayout?_append_or (text : List Char) :
    (∀ rest, Apart (c :: text) rest →
        dropLayout? c (text ++ rest) = (dropLayout? c text).map (· ++ rest)) ∨
      (dropLayout? c text = some [] ∧ dropLayout? c (text ++ [';']) = some []) := by
  unfold dropLayout?
  by_cases hblank : Text.isBlank c = true
  · exact Or.inl fun rest _ => by simp [hblank]
  by_cases hdash : c = '-'
  · subst hdash
    have hstart := fun rest (ha : Apart ('-' :: text) rest) =>
      startsWith_append (x := '-') ha (by decide) (by decide)
    by_cases hs : startsWith '-' text = true
    · rcases dropLine_append_or text with h | ⟨hend, hopen⟩
      · exact Or.inl fun rest ha => by simp [hblank, hstart rest ha, hs, h rest]
      · exact Or.inr (by simp [hblank, hstart _ (apart_semicolon _), hs, hend, hopen])
    · exact Or.inl fun rest ha => by simp [hblank, hstart rest ha, hs]
  by_cases hhash : c = '#'
  · subst hhash
    rcases dropLine_append_or text with h | ⟨hend, hopen⟩
    · exact Or.inl fun rest ha => by simp [hblank, h rest]
    · exact Or.inr (by simp [hblank, hend, hopen])
  by_cases hslash : c = '/'
  · subst hslash
    have hstart := fun rest (ha : Apart ('/' :: text) rest) =>
      startsWith_append (x := '*') ha (by decide) (by decide)
    by_cases hs : startsWith '*' text = true
    · obtain ⟨tail, rfl⟩ := cons_of_startsWith hs
      rcases dropBlock_append_or false tail with h | ⟨hend, hopen⟩
      · exact Or.inl fun rest _ => by simp [hblank, startsWith, h rest]
      · exact Or.inr (by simp [hblank, startsWith, hend, hopen])
    · exact Or.inl fun rest ha => by simp [hblank, hstart rest ha, hs]
  · exact Or.inl fun rest _ => by simp [hblank, hdash, hhash, hslash]

/-- Brackets are a token of their own if they are empty, and a quoted name otherwise. -/
theorem bracket_append_or (escapes : Bool) (text : List Char) :
    Settles (wordOrLiteral escapes '[') '[' text ∨ Swallows (wordOrLiteral escapes '[') text := by
  by_cases hs : startsWith ']' text = true
  · obtain ⟨tail, rfl⟩ := cons_of_startsWith hs
    exact Or.inl fun rest _ => rfl
  · have hclose : separates ']' = false := by decide
    refine append_or_trans (quotedLexeme_append_or (c := '[') hclose (by decide) text)
      (fun rest ha => ha) fun rest ha => ?_
    have hstart := startsWith_append (x := ']') ha (by decide) hclose
    simp [wordOrLiteral, hstart, hs]

/-- A dash begins a number only before a digit. -/
theorem settles_dash (escapes : Bool) (text : List Char) :
    Settles (wordOrLiteral escapes '-') '-' text := by
  have hread : ∀ rest, wordOrLiteral escapes '-' rest
      = if rest.head?.any Char.isDigit then numberLexeme '-' rest else (none, rest) := by
    intro rest
    have hstart : isWordStart '-' = false := by decide
    simp [wordOrLiteral, hstart]
  intro rest ha
  rw [hread, hread, any_head?_append ha (by decide) fun d hd => isDigit_of_separates hd]
  split
  · exact settles_numberLexeme (by decide) text rest ha
  · rfl

theorem wordOrLiteral_append_or (escapes : Bool) (text : List Char) :
    Settles (wordOrLiteral escapes c) c text ∨ Swallows (wordOrLiteral escapes c) text := by
  by_cases hbracket : c = '['
  · rw [hbracket]
    exact bracket_append_or escapes text
  by_cases hquote : (c = '"' || c = '\x60') = true
  · have hc : separates c = false := by
      simp only [Bool.or_eq_true, decide_eq_true_eq] at hquote
      rcases hquote with rfl | rfl <;> decide
    have hread : wordOrLiteral escapes c = quotedLexeme c := by
      funext rest
      simp [wordOrLiteral, hbracket, hquote]
    rw [hread]
    exact quotedLexeme_append_or hc hc text
  by_cases hliteral : c = '\''
  · have hread : wordOrLiteral escapes c = literalLexeme escapes := by
      funext rest
      simp [wordOrLiteral, hliteral]
    rw [hread]
    exact literalLexeme_append_or escapes (by simp [hliteral]; decide) text
  by_cases hdigit : c.isDigit = true
  · have hread : wordOrLiteral escapes c = numberLexeme c := by
      funext rest
      simp [wordOrLiteral, hbracket, hquote, hliteral, hdigit]
    rw [hread]
    exact Or.inl (settles_numberLexeme (separates_of_isDigit hdigit) text)
  by_cases hdash : c = '-'
  · rw [hdash]
    exact Or.inl (settles_dash escapes text)
  by_cases hword : isWordStart c = true
  · have hread : wordOrLiteral escapes c = wordLexeme c := by
      funext rest
      simp [wordOrLiteral, hbracket, hquote, hliteral, hdigit, hdash, hword]
    rw [hread]
    exact wordLexeme_append_or (separates_of_isWordChar (isWordChar_of_isWordStart hword)) text
  · have hread : wordOrLiteral escapes c = fun rest => (none, rest) := by
      funext rest
      simp [wordOrLiteral, hbracket, hquote, hliteral, hdigit, hdash, hword]
    rw [hread]
    exact Or.inl fun rest _ => rfl

theorem lexeme_append_or (escapes : Bool) (text : List Char) :
    Settles (lexeme escapes c) c text ∨ Swallows (lexeme escapes c) text := by
  rcases dropLayout?_append_or (c := c) text with h | ⟨hend, hopen⟩
  · cases hlayout : dropLayout? c text with
    | some after =>
      refine Or.inl fun rest ha => ?_
      have hrest := h rest ha
      rw [hlayout, Option.map_some] at hrest
      simp only [lexeme, hlayout, hrest]
    | none =>
      have hrest : ∀ rest, Apart (c :: text) rest → dropLayout? c (text ++ rest) = none := by
        intro rest ha
        rw [h rest ha, hlayout, Option.map_none]
      cases hsign : sign? c with
      | some t =>
        refine Or.inl fun rest ha => ?_
        simp only [lexeme, hlayout, hrest rest ha, hsign]
      | none =>
        refine append_or_trans (wordOrLiteral_append_or escapes text) (fun rest ha => ha) ?_
        intro rest ha
        simp only [lexeme, hrest rest ha, hsign]
  · exact Or.inr (by simp [Swallows, lexeme, hend, hopen])

end

/-! ## Complete texts -/

/-- A semicolon after the text is read as one. -/
def Complete (escapes : Bool) (text : List Char) : Prop :=
  tokens escapes (text ++ [';']) = tokens escapes text ++ [.semicolon]

/-- A lexeme of a complete text settles, and what follows it is complete again. -/
theorem settles_of_complete {escapes : Bool} {c : Char} {text : List Char}
    (h : Complete escapes (c :: text)) :
    Settles (lexeme escapes c) c text ∧ Complete escapes (lexeme escapes c text).2 := by
  unfold Complete at h ⊢
  rw [List.cons_append, tokens_cons, tokens_cons] at h
  rcases lexeme_append_or escapes text with hsettles | ⟨hend, hopen, hsome⟩
  · refine ⟨hsettles, ?_⟩
    rw [hsettles _ (apart_semicolon _), List.append_assoc] at h
    exact List.append_cancel_left h
  · -- both texts have one token at most, so the semicolon is not among them
    rw [hend, hopen, tokens_nil, List.append_nil, List.append_nil] at h
    have hlength := congrArg List.length h
    rw [List.length_append] at hlength
    cases hone : (lexeme escapes c text).1 <;>
      cases hother : (lexeme escapes c (text ++ [';'])).1 <;>
      simp_all

/-- The tokens of a complete text and of a text apart from it. -/
theorem tokens_append {escapes : Bool} {text : List Char} (h : Complete escapes text)
    {rest : List Char} (ha : Apart text rest) :
    tokens escapes (text ++ rest) = tokens escapes text ++ tokens escapes rest := by
  fun_induction tokens escapes text with
  | case1 => rfl
  | case2 c text step ih =>
    obtain ⟨hsettles, hcomplete⟩ := settles_of_complete h
    rw [List.cons_append, tokens_cons, hsettles rest ha, List.append_assoc]
    congr 1
    by_cases hafter : step.2 = []
    · have hnil : tokens escapes step.2 = [] := by rw [hafter, tokens_nil]
      rw [hnil, show (lexeme escapes c text).2 = [] from hafter]
      rfl
    · have hsuffix : step.2 <:+ c :: text :=
        (lexeme_suffix escapes c text).trans (List.suffix_cons c text)
      exact ih hcomplete (ha.of_suffix hsuffix hafter)

end SchemaGraph.Sql
