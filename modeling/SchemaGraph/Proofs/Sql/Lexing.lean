import SchemaGraph.Sql.ScriptText

/-!
# Reading what was written, piece by piece

Each lemma says what a piece of text is read as when more text follows: the tokens of the piece, and
then those of the text after it. Words and quoted names are read whole only if the next character
cannot continue them (`stops`); everything that is written after a word or a name begins with such a
character.
-/

namespace SchemaGraph.Sql

/-! ## Characters -/

/-- The code points of white space, one by one. -/
def blankCodes : List Nat :=
  Text.blankRanges.flatMap fun r => List.range' r.1 (r.2 - r.1 + 1)

theorem mem_blankCodes {c : Char} (h : Text.isBlank c = true) : c.toNat ∈ blankCodes := by
  unfold Text.isBlank Text.inRanges at h
  rw [List.any_eq_true] at h
  obtain ⟨r, hr, hc⟩ := h
  rw [Bool.and_eq_true, decide_eq_true_eq, decide_eq_true_eq] at hc
  refine List.mem_flatMap.2 ⟨r, hr, List.mem_range'_1.2 ?_⟩
  omega

theorem isWordChar_blankCodes : ∀ n ∈ blankCodes, isWordChar (Char.ofNat n) = false := by
  decide +kernel

/-- What holds of each ASCII character by its value. -/
theorem ascii_cases {P : Char → Prop} (h : ∀ n < 128, P (Char.ofNat n)) {c : Char}
    (hc : c.toNat < 128) : P c := by
  have hn := h c.toNat hc
  rwa [Char.ofNat_toNat] at hn

/-- White space never belongs to a word. -/
theorem isWordChar_of_isBlank {c : Char} (h : Text.isBlank c = true) : isWordChar c = false := by
  have hn := isWordChar_blankCodes c.toNat (mem_blankCodes h)
  rwa [Char.ofNat_toNat] at hn

theorem isWordChar_of_isWordStart {c : Char} (h : isWordStart c = true) : isWordChar c = true := by
  unfold isWordStart at h
  unfold isWordChar
  rw [Bool.or_eq_true] at h
  rcases h with h | h
  · simp [Text.isAlphanumeric_of_isAlphabetic h]
  · simp [h]

theorem isBlank_of_isWordStart {c : Char} (h : isWordStart c = true) : Text.isBlank c = false := by
  rw [← Bool.not_eq_true]
  intro hb
  have hw := isWordChar_of_isBlank hb
  rw [isWordChar_of_isWordStart h] at hw
  cases hw

/-- A word is not begun by a character with a meaning of its own. -/
theorem ne_of_isWordStart {c x : Char} (h : isWordStart c = true) (hx : isWordStart x = false) :
    c ≠ x := by
  rintro rfl
  rw [h] at hx
  cases hx

theorem toNat_lt_of_isDigit {c : Char} (h : c.isDigit = true) : c.toNat < 128 := by
  have hc : 48 ≤ c.toNat ∧ c.toNat ≤ 57 := by
    simpa [Char.isDigit, UInt32.le_iff_toNat_le] using h
  omega

theorem isDigit_of_isWordStart {c : Char} (h : isWordStart c = true) : c.isDigit = false := by
  by_cases hc : c.toNat < 128
  · have hall := ascii_cases (P := fun c => isWordStart c = true → c.isDigit = false) (by decide) hc
    exact hall h
  · rw [← Bool.not_eq_true]
    exact fun hd => hc (toNat_lt_of_isDigit hd)

/-- A character that continues neither a word nor a quoted name. -/
def breaks (c : Char) : Bool := !isWordChar c && c != '\'' && c != '"' && c != '\x60'

/-- The text is at its end, or continues neither a word nor a quoted name. -/
def stops (rest : List Char) : Bool := rest.head?.all breaks

theorem takeWhile_stops {rest : List Char} (h : stops rest = true) :
    rest.takeWhile isWordChar = [] ∧ rest.dropWhile isWordChar = rest := by
  cases rest with
  | nil => exact ⟨rfl, rfl⟩
  | cons c rest =>
    simp only [stops, List.head?_cons, Option.all_some, breaks, Bool.and_eq_true,
      Bool.not_eq_true'] at h
    simp [h.1.1.1]

theorem startsWith_stops {rest : List Char} {c : Char} (h : stops rest = true)
    (hc : breaks c = false) : startsWith c rest = false := by
  cases rest with
  | nil => rfl
  | cons d rest =>
    have hd : breaks d = true := h
    have hne : d ≠ c := by
      rintro rfl
      rw [hd] at hc
      cases hc
    simp [startsWith, hne]

/-! ## Layout and signs -/

variable {escapes : Bool}

theorem tokens_of_dropLayout {c : Char} {rest after : List Char}
    (h : dropLayout? c rest = some after) : tokens escapes (c :: rest) = tokens escapes after := by
  rw [tokens_cons]
  simp only [lexeme, h, Option.toList_none, List.nil_append]

theorem tokens_space (rest : List Char) : tokens escapes (' ' :: rest) = tokens escapes rest :=
  tokens_of_dropLayout rfl

theorem tokens_newline (rest : List Char) : tokens escapes ('\n' :: rest) = tokens escapes rest :=
  tokens_of_dropLayout rfl

/-- A sign is a token whatever follows it. -/
theorem tokens_sign {c : Char} {t : Token} (h : sign? c = some t) (rest : List Char) :
    tokens escapes (c :: rest) = t :: tokens escapes rest := by
  unfold sign? at h
  rw [tokens_cons]
  split at h
  all_goals cases h
  all_goals rfl

theorem tokens_leftParen (rest : List Char) :
    tokens escapes ('(' :: rest) = .leftParen :: tokens escapes rest := tokens_sign rfl rest

theorem tokens_rightParen (rest : List Char) :
    tokens escapes (')' :: rest) = .rightParen :: tokens escapes rest := tokens_sign rfl rest

theorem tokens_comma (rest : List Char) :
    tokens escapes (',' :: rest) = .comma :: tokens escapes rest := tokens_sign rfl rest

theorem tokens_semicolon (rest : List Char) :
    tokens escapes (';' :: rest) = .semicolon :: tokens escapes rest := tokens_sign rfl rest

theorem tokens_brackets (rest : List Char) :
    tokens escapes ('[' :: ']' :: rest) = .brackets :: tokens escapes rest := by
  rw [tokens_cons]
  rfl

theorem dropLine_append {line : List Char} (h : '\n' ∉ line) (rest : List Char) :
    dropLine (line ++ '\n' :: rest) = rest := by
  induction line with
  | nil => rfl
  | cons c line ih =>
    rw [List.mem_cons, not_or] at h
    rw [List.cons_append, dropLine, if_neg (Ne.symm h.1), ih h.2]

/-- A line comment is passed over. -/
theorem tokens_lineComment {line : List Char} (h : '\n' ∉ line) (rest : List Char) :
    tokens escapes ('-' :: '-' :: (line ++ '\n' :: rest)) = tokens escapes rest := by
  have hdrop : dropLayout? '-' ('-' :: (line ++ '\n' :: rest))
      = some (dropLine ('-' :: (line ++ '\n' :: rest))) := rfl
  rw [tokens_of_dropLayout hdrop]
  congr 1
  exact @dropLine_append ('-' :: line) (by simp [h]) rest

/-! ## Words -/

/-- The text has the form of a bare word. -/
def isBareWord (s : String) : Bool :=
  match s.toList with
  | [] => false
  | c :: rest => isWordStart c && rest.all isWordChar

theorem isBareWord_iff {s : String} :
    isBareWord s = true ↔
      ∃ c rest, s.toList = c :: rest ∧ isWordStart c = true ∧ rest.all isWordChar = true := by
  unfold isBareWord
  split
  · rename_i h
    simp [h]
  · rename_i c rest h
    rw [h, Bool.and_eq_true]
    constructor
    · intro hform
      exact ⟨c, rest, rfl, hform.1, hform.2⟩
    · rintro ⟨_, _, heq, hform⟩
      cases heq
      exact hform

/-- A word is not blank. -/
theorem allBlank_of_isBareWord {s : String} (h : isBareWord s = true) :
    Text.allBlank s = false := by
  obtain ⟨c, rest, hs, hc, -⟩ := isBareWord_iff.1 h
  rw [Text.allBlank, hs, List.all_cons, isBlank_of_isWordStart hc, Bool.false_and]

theorem lexeme_of_isWordStart {c : Char} (h : isWordStart c = true) (rest : List Char) :
    lexeme escapes c rest = wordLexeme c rest := by
  have hblank := isBlank_of_isWordStart h
  have hne : ∀ x, isWordStart x = false → c ≠ x := fun x hx => ne_of_isWordStart h hx
  have hdigit := isDigit_of_isWordStart h
  have hlayout : dropLayout? c rest = none := by
    simp [dropLayout?, hblank, hne '-' (by decide), hne '#' (by decide), hne '/' (by decide)]
  have hsign : sign? c = none := by
    unfold sign?
    split
    all_goals first | rfl | exact absurd h (by decide)
  rw [lexeme, hlayout]
  simp only [hsign]
  simp [wordOrLiteral, hdigit, h, hne '[' (by decide), hne '"' (by decide), hne '\x60' (by decide),
    hne '\'' (by decide), hne '-' (by decide)]

/-- A bare word is read whole. -/
theorem tokens_word {s : String} (h : isBareWord s = true) {rest : List Char}
    (hr : stops rest = true) :
    tokens escapes (s.toList ++ rest) = wordToken s :: tokens escapes rest := by
  obtain ⟨c, cs, hs, hc, hcs⟩ := isBareWord_iff.1 h
  obtain ⟨htake, hdrop⟩ := takeWhile_stops hr
  rw [List.all_eq_true] at hcs
  have ht : (cs ++ rest).takeWhile isWordChar = cs := by
    rw [List.takeWhile_append_of_pos hcs, htake, List.append_nil]
  have hd : (cs ++ rest).dropWhile isWordChar = rest := by
    rw [List.dropWhile_append_of_pos hcs, hdrop]
  have hquote : startsWith '\'' rest = false := startsWith_stops hr rfl
  have hword : String.ofList (c :: cs) = s := by rw [← hs, String.ofList_toList]
  rw [hs, List.cons_append, tokens_cons, lexeme_of_isWordStart hc]
  simp [wordLexeme, ht, hd, hquote, hword]

theorem tokens_keyword {k : Keyword} (s : String) (h : isBareWord s = true)
    (hk : Keyword.ofWord? s = some k) {rest : List Char} (hr : stops rest = true) :
    tokens escapes (s.toList ++ rest) = .keyword k :: tokens escapes rest := by
  rw [tokens_word h hr, wordToken, hk]

/-! ## Quoted names -/

theorem quotedBody_doubleQuote (q : Char) (cs : List Char) {rest : List Char}
    (hr : startsWith q rest = false) :
    quotedBody q (doubleQuote q cs ++ q :: rest) = (cs, rest) := by
  induction cs with
  | nil =>
    cases rest with
    | nil => simp [doubleQuote, quotedBody]
    | cons d rest =>
      have hd : d ≠ q := by simpa [startsWith] using hr
      simp [doubleQuote, quotedBody, hd]
  | cons c cs ih =>
    by_cases hc : c = q
    · subst hc
      have hcons : doubleQuote c (c :: cs) = c :: c :: doubleQuote c cs := by simp [doubleQuote]
      rw [hcons, List.cons_append, List.cons_append, quotedBody, if_pos rfl, if_pos rfl, ih]
    · have hcons : doubleQuote q (c :: cs) = c :: doubleQuote q cs := by simp [doubleQuote, hc]
      rw [hcons, List.cons_append]
      -- what follows is not empty, since the closing quote is still to come
      cases hmore : doubleQuote q cs ++ q :: rest with
      | nil => simp at hmore
      | cons d more => rw [quotedBody, if_neg hc, ← hmore, ih]

theorem lexeme_quote (d : Dialect) (rest : List Char) :
    lexeme escapes d.nameQuote rest = quotedLexeme d.nameQuote rest := by
  cases d <;> rfl

theorem breaks_nameQuote (d : Dialect) : breaks d.nameQuote = false := by cases d <;> rfl

/-- A quoted name is read whole, and its doubled quotes as one. -/
theorem tokens_quoted (d : Dialect) (name : String) {rest : List Char} (hr : stops rest = true) :
    tokens escapes (d.nameQuote :: (doubleQuote d.nameQuote name.toList ++ d.nameQuote :: rest)) =
      .quoted name :: tokens escapes rest := by
  rw [tokens_cons, lexeme_quote, quotedLexeme,
    quotedBody_doubleQuote _ _ (startsWith_stops hr (breaks_nameQuote d))]
  simp [String.ofList_toList]

/-! ## Names -/

/-- The token that a written name is read as. -/
def nameToken (name : String) : Token := if isPlain name then .word name else .quoted name

theorem isPlain_eq (name : String) :
    isPlain name = (isBareWord name && (Keyword.ofWord? name).isNone
      && !Text.isOneOf reservedWords name) := by
  unfold isPlain isBareWord
  cases name.toList <;> simp

/-- A name is written so that it is read as one token, and never as a keyword. -/
theorem tokens_quoteName (d : Dialect) (name : String) {rest : List Char}
    (hr : stops rest = true) :
    tokens escapes ((quoteName d name).toList ++ rest) = nameToken name :: tokens escapes rest := by
  unfold quoteName nameToken
  by_cases hp : isPlain name = true
  · have hform := hp
    rw [isPlain_eq, Bool.and_eq_true, Bool.and_eq_true, Option.isNone_iff_eq_none] at hform
    rw [if_pos hp, if_pos hp, tokens_word hform.1.1 hr, wordToken, hform.1.2]
  · rw [if_neg hp, if_neg hp, ← tokens_quoted d name hr]
    simp

theorem name?_nameToken {name : String} (h : Text.allBlank name = false) :
    (nameToken name).name? = some name := by
  unfold nameToken
  split <;> simp [Token.name?, h]

theorem columnName?_nameToken {name : String} (h : Text.allBlank name = false) :
    columnName? (nameToken name) = some name := by
  have hn := name?_nameToken h
  unfold nameToken at hn ⊢
  split <;> simp_all [columnName?]

/-- A written name never announces a clause of another kind. -/
theorem isReserved_nameToken (name : String) : isReserved (nameToken name) = false := by
  unfold nameToken
  split
  · rename_i hp
    rw [isPlain_eq, Bool.and_eq_true, Bool.not_eq_true'] at hp
    have hw : Text.isOneOf reservedWords name = false := hp.2
    rw [Text.isOneOf, List.any_eq_false] at hw
    rw [isReserved, List.any_eq_false]
    intro w hmem
    have hne := hw w hmem
    rw [Text.sameWord_comm] at hne
    exact hne
  · rfl

end SchemaGraph.Sql
