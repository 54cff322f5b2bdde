/-!
# Words compared without regard to case

Keywords, dialect names and signature words are ASCII, and are compared with the case of ASCII
letters ignored.
-/

namespace SchemaGraph.Text

/-- Two words that differ at most in the case of ASCII letters. -/
def sameWord (a b : String) : Bool := a.toList.map Char.toUpper == b.toList.map Char.toUpper

/-- One of the words, with the case of ASCII letters ignored. -/
def isOneOf (words : List String) (s : String) : Bool := words.any (sameWord · s)

/-- `part` occurs in the text, as consecutive characters. -/
def hasPart (part : List Char) : List Char → Bool
  | [] => part.isEmpty
  | c :: rest => part.isPrefixOf (c :: rest) || hasPart part rest

/-- Lower case, as far as it matters to a search for ASCII letters: they are lowered, and so are the
two other characters whose lower case begins with one, the Kelvin sign and the dotted capital I. -/
def lowerLetter (c : Char) : List Char :=
  if c = '\u212A' then ['k']
  else if c = '\u0130' then ['i', '\u0307']
  else [c.toLower]

/-- A text in lower case, to be searched for ASCII words. -/
def lower (cs : List Char) : List Char := cs.flatMap lowerLetter

theorem sameWord_comm (a b : String) : sameWord a b = sameWord b a := by
  simp [sameWord, Bool.beq_comm]

end SchemaGraph.Text
