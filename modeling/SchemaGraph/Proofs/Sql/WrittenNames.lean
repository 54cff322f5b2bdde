import SchemaGraph.Proofs.Sql.Provenance

/-!
# Written names are read back

A name is written bare or in quotes, and `isPlain` decides which without asking the lexer. The
decision is right both ways: what is written is read as one token that is the name and nothing else
(`writtenName_readBack`), and quotes are written only around a name that would not be read so
without them (`quoteName_eq_self_iff`).
-/

namespace SchemaGraph.Sql

variable {name : String}

/-- A name that is written bare is read as a bare word, and that is none of the reserved ones. -/
theorem tokens_of_isPlain (h : isPlain name = true) (escapes : Bool) :
    tokens escapes name.toList = [.word name] ∧ isReserved (.word name) = false := by
  have hread := @tokens_quoteName escapes .standard name [] rfl
  have hfree := isReserved_nameToken name
  rw [nameToken, if_pos h] at hread hfree
  rw [quoteName, if_pos h, List.append_nil, tokens_nil] at hread
  exact ⟨hread, hfree⟩

/-- The lexer makes a bare word of a text only if the text may be written bare. -/
theorem isPlain_of_tokens {escapes : Bool} (h : tokens escapes name.toList = [.word name])
    (hfree : isReserved (.word name) = false) : isPlain name = true := by
  have hlexed : (Token.word name).Lexed := lexed_of_mem_tokens _ (by rw [h]; exact .head _)
  obtain ⟨hform, hkey⟩ := hlexed name rfl
  have hword : Text.isOneOf reservedWords name = false := by
    rw [isReserved, List.any_eq_false] at hfree
    rw [Text.isOneOf, List.any_eq_false]
    intro w hw
    rw [Text.sameWord_comm]
    exact hfree w hw
  rw [isPlain_eq, hform, hkey, hword]
  rfl

/-- Quotes make a name longer. -/
theorem quoteName_ne_self (d : Dialect) (h : isPlain name = false) : quoteName d name ≠ name := by
  have hlength : name.toList.length ≤ (doubleQuote d.nameQuote name.toList).length := by
    induction name.toList with
    | nil => exact Nat.zero_le _
    | cons c cs ih =>
      by_cases hc : c = d.nameQuote <;> simp [doubleQuote, hc] at ih ⊢ <;> omega
  intro heq
  have hlists := congrArg (fun s => s.toList.length) heq
  rw [quoteName, if_neg (by simp [h])] at hlists
  simp at hlists
  omega

/-- A name is written bare exactly if it is then read as a bare word that is not reserved. -/
theorem quoteName_eq_self_iff (d : Dialect) (escapes : Bool) :
    quoteName d name = name ↔
      tokens escapes name.toList = [.word name] ∧ isReserved (.word name) = false := by
  constructor
  · intro h
    cases hp : isPlain name with
    | true => exact tokens_of_isPlain hp escapes
    | false => exact absurd h (quoteName_ne_self d hp)
  · rintro ⟨hread, hfree⟩
    rw [quoteName, if_pos (isPlain_of_tokens hread hfree)]

/-- **Written names are read back.** Take a name that is not blank, written in any dialect and read
with or without backslash escapes, before a text that begins with a space, a line break or a
parenthesis. It is read as one token, and after it the text is read as if nothing stood before it.
The token is the name; it is no keyword, and no bare word that introduces a clause of another kind.
The quotes are there only if without them the name would not be read as such a token. -/
theorem writtenName_readBack (d : Dialect) (escapes : Bool) (hname : Text.allBlank name = false)
    {rest : List Char} (hrest : rest.head? ∈ [some ' ', some '\n', some '(', some ')']) :
    (∃ t, tokens escapes ((quoteName d name).toList ++ rest) = t :: tokens escapes rest ∧
        t.name? = some name ∧ (∀ k, t ≠ .keyword k) ∧ ∀ w ∈ reservedWords, t.isWord w = false) ∧
      (quoteName d name = name ↔ tokens escapes name.toList = [.word name] ∧
        ∀ w ∈ reservedWords, (Token.word name).isWord w = false) := by
  have hstops : stops rest = true := by
    rw [stops]
    rcases (by simpa using hrest : _ ∨ _ ∨ _ ∨ _) with h | h | h | h <;> rw [h] <;> decide
  have hreserved (t : Token) : isReserved t = false ↔ ∀ w ∈ reservedWords, t.isWord w = false := by
    simp [isReserved]
  refine ⟨⟨nameToken name, tokens_quoteName d name hstops, name?_nameToken hname, ?_, ?_⟩, ?_⟩
  · intro k
    unfold nameToken
    split <;> simp
  · exact (hreserved _).1 (isReserved_nameToken name)
  · rw [quoteName_eq_self_iff d escapes, hreserved]

/-- A name that would begin a comment, with both kinds of quotes in it. -/
def quotedName : String := "--\"\x60"

theorem writtenName_readBack_quotedName :
    Text.allBlank quotedName = false ∧ quoteName .mysql quotedName = "\x60--\"\x60\x60\x60" ∧
      ∃ t, tokens true ("\x60--\"\x60\x60\x60".toList ++ ['(', 'x'])
          = t :: tokens true ['(', 'x'] ∧
        t.name? = some quotedName := by
  have hblank : Text.allBlank quotedName = false := by decide
  have hrest : ['(', 'x'].head? ∈ [some ' ', some '\n', some '(', some ')'] := by decide
  obtain ⟨⟨t, hread, hname, -⟩, -⟩ := writtenName_readBack .mysql true hblank hrest
  exact ⟨hblank, by decide, t, hread, hname⟩

end SchemaGraph.Sql
