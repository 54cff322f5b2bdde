/-!
# Ranges of code points

A property of characters is kept as a list of closed ranges of code points.
-/

namespace SchemaGraph.Text

abbrev Range := Nat × Nat

/-- The character lies in one of the ranges. -/
def inRanges (ranges : List Range) (c : Char) : Bool :=
  ranges.any fun r => decide (r.1 ≤ c.toNat) && decide (c.toNat ≤ r.2)

end SchemaGraph.Text
