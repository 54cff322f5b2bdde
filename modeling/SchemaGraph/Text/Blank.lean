import SchemaGraph.Text.Ranges

/-!
# Blank characters

What counts as white space, when a name is blank, and how runs of white space collapse. The set is
the white space of Unicode, so it is wider than the blanks of ASCII and leaves out characters that
are merely invisible.
-/

namespace SchemaGraph.Text

/-- The code points with the property `White_Space`. -/
def blankRanges : List Range :=
  [(0x0009, 0x000D), (0x0020, 0x0020), (0x0085, 0x0085), (0x00A0, 0x00A0), (0x1680, 0x1680),
    (0x2000, 0x200A), (0x2028, 0x2029), (0x202F, 0x202F), (0x205F, 0x205F), (0x3000, 0x3000)]

/-- White space. -/
def isBlank (c : Char) : Bool := inRanges blankRanges c

/-- Empty, or white space only. -/
def allBlank (s : String) : Bool := s.toList.all isBlank

/-- After a kept character: a run of white space between two kept characters becomes one space,
and one at the end is dropped. `gap` tells that such a run has begun. -/
def squeezeAfter (gap : Bool) : List Char → List Char
  | [] => []
  | c :: rest =>
    if isBlank c then squeezeAfter true rest
    else if gap then ' ' :: c :: squeezeAfter false rest
    else c :: squeezeAfter false rest

/-- The words of a text with one space between them. -/
def squeeze (cs : List Char) : List Char :=
  match cs.dropWhile isBlank with
  | [] => []
  | c :: rest => c :: squeezeAfter false rest

theorem isBlank_space : isBlank ' ' = true := by decide

end SchemaGraph.Text
