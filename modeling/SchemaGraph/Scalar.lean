import SchemaGraph.Power

/-!
# Scalars: the numbers of the canvas

Geometry is written once over any type of scalars. The program runs on binary floating point,
where an operand may be "not a number"; exact arithmetic on the rationals is the other instance,
and there the laws of the canvas hold without rounding.
-/

namespace SchemaGraph

/-- The arithmetic and the comparisons that canvas geometry needs. A fraction is given by its digits
and the number of places after the point. Comparisons are false when either side is not a number. -/
class Scalar (K : Type) extends Add K, Sub K, Mul K, Div K where
  whole : Nat → K
  fraction : Nat → Nat → K
  less : K → K → Bool
  atMost : K → K → Bool
  same : K → K → Bool
  finite : K → Bool

namespace Scalar

variable {K : Type} [Scalar K]

/-- The larger of two scalars. Here and in `smaller` an undefined operand is ignored, and of equal
ones the first wins. -/
def larger (a b : K) : K :=
  if same a a then (if less a b then b else a) else b

def smaller (a b : K) : K :=
  if same a a then (if less b a then b else a) else b

end Scalar

instance : Scalar Float where
  whole := Float.ofNat
  fraction m places := Float.ofScientific m true places
  less a b := a < b
  atMost a b := a ≤ b
  same a b := a == b
  finite := Float.isFinite

instance : Scalar Rat where
  whole n := n
  fraction m places := (m : Rat) / (powerOfTen places : Nat)
  less a b := a < b
  atMost a b := a ≤ b
  same a b := a == b
  finite _ := true

end SchemaGraph
