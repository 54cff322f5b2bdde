import SchemaGraph.Decimal.Notation
import SchemaGraph.Json.Value

/-!
# Writing JSON text

Values are written on one line without blanks, or on many lines with an indentation of two spaces. A
string escapes only what it must: the quote, the backslash and control characters.
-/

namespace SchemaGraph.Json

def escapeChar (c : Char) : List Char :=
  match c with
  | '"' => ['\\', '"']
  | '\\' => ['\\', '\\']
  | '\x08' => ['\\', 'b']
  | '\x0c' => ['\\', 'f']
  | '\n' => ['\\', 'n']
  | '\r' => ['\\', 'r']
  | '\t' => ['\\', 't']
  | _ =>
    if c.toNat < 0x20 then
      ['\\', 'u', '0', '0', Nat.digitChar (c.toNat / 16), Nat.digitChar (c.toNat % 16)]
    else [c]

def quote (s : String) : String := "\"" ++ String.ofList (s.toList.flatMap escapeChar) ++ "\""

/-- A key in quotes. No value that is written has a garbled key. -/
def quoteKey (key : Option String) : String := quote (key.getD "")

/-- A number; null for one that is not finite. -/
def floatText (x : Float) : String := (Decimal.dataText? x).getD "null"

/-- A value that holds no others. -/
def scalarText : Value → String
  | .bool true => "true"
  | .bool false => "false"
  | .int i => toString i
  | .float x => floatText x
  | .text s => quote s
  | _ => "null"

/-! ## On one line -/

mutual

/-- A value on one line. -/
def Value.compact : Value → String
  | .array items => "[" ++ ",".intercalate (compactItems items) ++ "]"
  | .object members => "\x7b" ++ ",".intercalate (compactMembers members) ++ "\x7d"
  | v => scalarText v

def compactItems : List Value → List String
  | [] => []
  | v :: rest => v.compact :: compactItems rest

def compactMembers : List (Option String × Value) → List String
  | [] => []
  | (key, v) :: rest => (quoteKey key ++ ":" ++ v.compact) :: compactMembers rest

end

/-! ## On many lines -/

def lineBreak (level : Nat) : String := "\n" ++ String.ofList (List.replicate (2 * level) ' ')

/-- A bracketed list with one entry on a line, or nothing between the brackets. -/
def bracketed (opening closing : String) (level : Nat) (entries : List String) : String :=
  if entries.isEmpty then opening ++ closing
  else
    opening ++ lineBreak (level + 1) ++ ("," ++ lineBreak (level + 1)).intercalate entries
      ++ lineBreak level ++ closing

mutual

/-- A value on many lines, at the given level of indentation. -/
def Value.pretty (level : Nat) : Value → String
  | .array items => bracketed "[" "]" level (prettyItems (level + 1) items)
  | .object members => bracketed "\x7b" "\x7d" level (prettyMembers (level + 1) members)
  | v => scalarText v

def prettyItems (level : Nat) : List Value → List String
  | [] => []
  | v :: rest => v.pretty level :: prettyItems level rest

def prettyMembers (level : Nat) : List (Option String × Value) → List String
  | [] => []
  | (key, v) :: rest => (quoteKey key ++ ": " ++ v.pretty level) :: prettyMembers level rest

end

end SchemaGraph.Json
