import SchemaGraph.Decimal.Shortest

/-!
# Decimal notation

How digits are laid out as text: in full, or with an exponent when the number is very large or very
small.
-/

namespace SchemaGraph.Decimal

structure Style where
  /-- The digit taken half-way between two shortest decimals. -/
  tie : Tie
  /-- The least and the greatest exponent of a first digit that is written without an exponent;
  without this pair no number is written with one. -/
  plainRange : Option (Int × Int)
  /-- A whole number written in full ends in `.0`. -/
  pointZero : Bool

/-- The exponent of the first digit: one less than the number of digits before the point. -/
def Digits.leading (d : Digits) : Int := ((toString d.coefficient).length : Int) - 1 + d.exponent

def Digits.plain (pointZero : Bool) (d : Digits) : String :=
  let cs := (toString d.coefficient).toList
  if 0 ≤ d.exponent then
    String.ofList (cs ++ List.replicate d.exponent.toNat '0') ++ (if pointZero then ".0" else "")
  else
    let places := (-d.exponent).toNat
    let padded := List.replicate (places + 1 - cs.length) '0' ++ cs
    let whole := padded.length - places
    String.ofList (padded.take whole) ++ "." ++ String.ofList (padded.drop whole)

def Digits.scientific (d : Digits) : String :=
  let cs := (toString d.coefficient).toList
  let tail := cs.drop 1
  let lead := d.leading
  String.ofList (cs.take 1) ++ (if tail.isEmpty then "" else "." ++ String.ofList tail) ++ "e"
    ++ (if lead < 0 then "-" else "+") ++ toString lead.natAbs

def Digits.write (style : Style) (d : Digits) : String :=
  match style.plainRange with
  | none => d.plain style.pointZero
  | some (least, greatest) =>
    if least ≤ d.leading ∧ d.leading ≤ greatest then d.plain style.pointZero else d.scientific

/-- Style of messages: always in full, without a point where there is no fraction. -/
def messageStyle : Style := ⟨.up, none, false⟩

/-- Style of stored data: between `0.00001` and `1000000000000000.0` in full, else with an
exponent; a whole number shows that it is no integer. -/
def dataStyle : Style := ⟨.toEven, some (-5, 15), true⟩

def writeFinite (style : Style) (negative : Bool) (mantissa : Nat) (exponent : Int) : String :=
  (if negative then "-" else "") ++ (shortest style.tie mantissa exponent).write style

def messageText (x : Float) : String :=
  match partsOf x with
  | .undefined => "NaN"
  | .infinite negative => if negative then "-inf" else "inf"
  | .finite negative mantissa exponent => writeFinite messageStyle negative mantissa exponent

/-- A finite number in stored data; none for one that stored data cannot hold. -/
def dataText? (x : Float) : Option String :=
  match partsOf x with
  | .finite negative mantissa exponent => some (writeFinite dataStyle negative mantissa exponent)
  | _ => none

end SchemaGraph.Decimal
