import SchemaGraph.Decimal.Binary

/-!
# Decimals read through one word

A decimal with a fraction or an exponent is read in two steps. Its digits are gathered in a word of
64 bits, as far as they fit, together with the power of ten that the word is to be scaled by. Then
the word and the power are each rounded to a binary number, and so is their product or quotient. The
result may be off the nearest number by the last place.
-/

namespace SchemaGraph.Decimal

/-- The decimal `word * 10 ^ exponent`. -/
structure Scaled where
  word : Nat
  exponent : Int
  deriving DecidableEq, Repr

namespace Scaled

/-! ## Gathering digits -/

/-- The word with one more digit, unless it is too large for 64 bits then. -/
def push? (word digit : Nat) : Option Nat :=
  let longer := word * 10 + digit
  if longer < powerOfTwo 64 then some longer else none

/-- The digits before the point. From the first one that does not fit on, they only scale. -/
def addWhole (s : Scaled) : List Nat → Scaled
  | [] => s
  | digit :: rest =>
    match push? s.word digit with
    | some word => addWhole ⟨word, s.exponent⟩ rest
    | none => ⟨s.word, s.exponent + (rest.length + 1)⟩

/-- The digits after the point. From the first one that does not fit on, they are dropped. -/
def addFraction (s : Scaled) : List Nat → Scaled
  | [] => s
  | digit :: rest =>
    match push? s.word digit with
    | some word => addFraction ⟨word, s.exponent - 1⟩ rest
    | none => s

def ofDigits (whole fraction : List Nat) (exponent : Int) : Scaled :=
  addFraction (addWhole ⟨0, exponent⟩ whole) fraction

/-! ## Scaling -/

def largestPower : Nat := 308

/-- The nearest number to a power of ten that is finite. -/
def powerBits (exponent : Nat) : Nat := (nearestBits? (powerOfTen exponent) 1).getD 0

/-- A number over a power of ten, divided in steps where the power is not finite. -/
def overPower (bits exponent : Nat) : Nat :=
  if bits = 0 then 0
  else if exponent ≤ largestPower then (quotient? bits (powerBits exponent)).getD 0
  else overPower ((quotient? bits (powerBits largestPower)).getD 0) (exponent - largestPower)
termination_by exponent
decreasing_by simp only [largestPower] at *; omega

/-- The bits of the number that a decimal is read to; none when it is infinite. -/
def bits? (s : Scaled) : Option Nat :=
  if s.word = 0 then some 0
  else
    let bits := (nearestBits? s.word 1).getD 0
    if s.exponent < 0 then some (overPower bits (-s.exponent).toNat)
    else if s.exponent ≤ largestPower then product? bits (powerBits s.exponent.toNat)
    else none

/-- The number that a decimal is read to, with a sign; beyond the largest one there is only
infinity. -/
def toFloat (s : Scaled) (negative : Bool) : Float :=
  let bits := s.bits?.getD (2047 * powerOfTwo storedBits)
  Float.ofBits (UInt64.ofNat (if negative then bits + powerOfTwo 63 else bits))

end Scaled

end SchemaGraph.Decimal
