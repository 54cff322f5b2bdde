import SchemaGraph.Decimal.Scaled
import SchemaGraph.Json.Value

/-!
# Reading JSON text

The grammar is the standard one: no trailing commas, no comments, no control character inside a
string. A whole number that fits into 64 bits is kept as it is; any other number is read to a binary
number.
-/

namespace SchemaGraph.Json

/-- The text after leading white space. -/
def skipBlank (cs : List Char) : List Char :=
  cs.dropWhile fun c => c = ' ' || c = '\n' || c = '\t' || c = '\r'

/-! ## Strings -/

/-- A piece of a string: a character, or an escape that names one half of a character. -/
inductive Piece where
  | char (c : Char)
  | half (unit : Nat)

def hexDigit? (c : Char) : Option Nat :=
  if c.isDigit then some (c.toNat - '0'.toNat)
  else if 'a' ≤ c && c ≤ 'f' then some (c.toNat - 'a'.toNat + 10)
  else if 'A' ≤ c && c ≤ 'F' then some (c.toNat - 'A'.toNat + 10)
  else none

def hexUnit? (a b c d : Char) : Option Nat := do
  let a ← hexDigit? a
  let b ← hexDigit? b
  let c ← hexDigit? c
  let d ← hexDigit? d
  pure (((a * 16 + b) * 16 + c) * 16 + d)

/-- The piece that an escape with four digits stands for. -/
def unitPiece (unit : Nat) : Piece :=
  if 0xD800 ≤ unit && unit ≤ 0xDFFF then .half unit else .char (Char.ofNat unit)

/-- The character that a backslash and `c` stand for. -/
def shortEscape? (c : Char) : Option Char :=
  match c with
  | '"' => some '"'
  | '\\' => some '\\'
  | '/' => some '/'
  | 'b' => some '\x08'
  | 'f' => some '\x0c'
  | 'n' => some '\n'
  | 'r' => some '\r'
  | 't' => some '\t'
  | _ => none

def withPiece (p : Piece) : Option (List Piece × List Char) → Option (List Piece × List Char)
  | some (pieces, after) => some (p :: pieces, after)
  | none => none

/-- The pieces of a string up to its closing quote. -/
def stringPieces : List Char → Option (List Piece × List Char)
  | [] => none
  | '"' :: rest => some ([], rest)
  | '\\' :: 'u' :: a :: b :: c :: d :: rest =>
    match hexUnit? a b c d with
    | some unit => withPiece (unitPiece unit) (stringPieces rest)
    | none => none
  | '\\' :: c :: rest =>
    match shortEscape? c with
    | some e => withPiece (.char e) (stringPieces rest)
    | none => none
  | c :: rest => if c.toNat < 0x20 then none else withPiece (.char c) (stringPieces rest)

/-- The character made of a leading and a trailing half. -/
def joinHalves? (lead trail : Nat) : Option Char :=
  if lead < 0xDC00 && 0xDC00 ≤ trail then
    some (Char.ofNat (0x10000 + (lead - 0xD800) * 0x400 + (trail - 0xDC00)))
  else none

/-- The text of the pieces, if every half has its other half next to it. -/
def pieceText? : List Piece → Option (List Char)
  | [] => some []
  | .char c :: rest => (pieceText? rest).map (c :: ·)
  | .half lead :: .half trail :: rest =>
    match joinHalves? lead trail with
    | some c => (pieceText? rest).map (c :: ·)
    | none => none
  | .half _ :: _ => none

/-- A string after its opening quote; `none` inside for a garbled one. -/
def string? (cs : List Char) : Option (Option String × List Char) :=
  (stringPieces cs).map fun read => ((pieceText? read.1).map String.ofList, read.2)

/-! ## Numbers -/

def digitValue (c : Char) : Nat := c.toNat - '0'.toNat

def digitsValue (digits : List Char) : Nat := digits.foldl (fun n c => n * 10 + digitValue c) 0

def digits? (cs : List Char) : Option (List Char × List Char) :=
  let digits := cs.takeWhile Char.isDigit
  if digits.isEmpty then none else some (digits, cs.dropWhile Char.isDigit)

/-- The digits before the point: a single zero, or digits that do not begin with one. -/
def wholeDigits? (cs : List Char) : Option (List Char × List Char) :=
  match cs with
  | '0' :: rest => if rest.head?.any Char.isDigit then none else some (['0'], rest)
  | _ => digits? cs

def fractionDigits? (cs : List Char) : Option (Option (List Char) × List Char) :=
  match cs with
  | '.' :: rest => (digits? rest).map fun read => (some read.1, read.2)
  | _ => some (none, cs)

/-- Whether an exponent is negative, and its text after the sign, if there is one. -/
def exponentSign (cs : List Char) : Bool × List Char :=
  match cs with
  | '-' :: after => (true, after)
  | '+' :: after => (false, after)
  | _ => (false, cs)

def exponent? (cs : List Char) : Option (Option Int × List Char) :=
  match cs with
  | c :: rest =>
    if c = 'e' || c = 'E' then
      let (negative, rest) := exponentSign rest
      (digits? rest).map fun read =>
        let n : Int := digitsValue read.1
        (some (if negative then -n else n), read.2)
    else some (none, cs)
  | [] => some (none, cs)

/-- A whole number that fits into 64 bits, without a sign or with one. -/
def wordSized (negative : Bool) (n : Nat) : Bool :=
  if negative then decide (0 < n) && decide (n ≤ powerOfTwo 63) else decide (n < powerOfTwo 64)

/-- A number with its sign removed. -/
def unsigned? (negative : Bool) (cs : List Char) : Option (Value × List Char) := do
  let (whole, cs) ← wholeDigits? cs
  let (fraction, cs) ← fractionDigits? cs
  let (exponent, cs) ← exponent? cs
  let n := digitsValue whole
  if fraction.isNone && exponent.isNone && wordSized negative n then
    pure (.int (if negative then -n else n), cs)
  else
    let scaled := Decimal.Scaled.ofDigits (whole.map digitValue)
      ((fraction.getD []).map digitValue) (exponent.getD 0)
    pure (.float (scaled.toFloat negative), cs)

def number? (cs : List Char) : Option (Value × List Char) :=
  match cs with
  | '-' :: rest => unsigned? true rest
  | _ => unsigned? false cs

def name? (cs : List Char) : Option (Value × List Char) :=
  match cs with
  | 'n' :: 'u' :: 'l' :: 'l' :: rest => some (.null, rest)
  | 't' :: 'r' :: 'u' :: 'e' :: rest => some (.bool true, rest)
  | 'f' :: 'a' :: 'l' :: 's' :: 'e' :: rest => some (.bool false, rest)
  | _ => none

/-! ## Values

A value costs a character, so the length of the text bounds how deep and how wide it is; `fuel`
counts it down. -/

mutual

/-- A value, and the text after it. -/
def value? : Nat → List Char → Option (Value × List Char)
  | 0, _ => none
  | fuel + 1, cs =>
    match skipBlank cs with
    | '"' :: rest => (string? rest).map fun read =>
      ((match read.1 with
        | some s => .text s
        | none => .garbled), read.2)
    | '[' :: rest =>
      match skipBlank rest with
      | ']' :: after => some (.array [], after)
      | _ => (items? fuel rest).map fun read => (.array read.1, read.2)
    | '\x7b' :: rest =>
      match skipBlank rest with
      | '\x7d' :: after => some (.object [], after)
      | _ => (members? fuel rest).map fun read => (.object read.1, read.2)
    | c :: rest =>
      if c = '-' || c.isDigit then number? (c :: rest) else name? (c :: rest)
    | [] => none

def items? : Nat → List Char → Option (List Value × List Char)
  | 0, _ => none
  | fuel + 1, cs =>
    match value? fuel cs with
    | none => none
    | some (v, rest) =>
      match skipBlank rest with
      | ']' :: after => some ([v], after)
      | ',' :: after => (items? fuel after).map fun read => (v :: read.1, read.2)
      | _ => none

def members? : Nat → List Char → Option (List (Option String × Value) × List Char)
  | 0, _ => none
  | fuel + 1, cs =>
    match skipBlank cs with
    | '"' :: rest =>
      match string? rest with
      | none => none
      | some (key, rest) =>
        match skipBlank rest with
        | ':' :: rest =>
          match value? fuel rest with
          | none => none
          | some (v, rest) =>
            match skipBlank rest with
            | '\x7d' :: after => some ([(key, v)], after)
            | ',' :: after => (members? fuel after).map fun read => ((key, v) :: read.1, read.2)
            | _ => none
        | _ => none
    | _ => none

end

/-- The value that a text holds; none for a text that is not JSON or goes on after the value. -/
def Value.ofText? (text : String) : Option Value :=
  let cs := text.toList
  match value? (2 * cs.length + 2) cs with
  | some (v, rest) => if (skipBlank rest).isEmpty then some v else none
  | none => none

end SchemaGraph.Json
