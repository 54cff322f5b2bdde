import SchemaGraph.Power

/-!
# Table identities

A table keeps its identity when it is renamed or moved. New identities are drawn from a supply; they
have the form of a random UUID of version 4, of which 122 bits are free. The supply steps through
these by an odd stride, so that no identity comes twice before all have come.
-/

namespace SchemaGraph

structure TableId where
  text : String
  deriving DecidableEq, Repr

/-- Where new identities come from. -/
structure IdSupply where
  seed : Nat
  issued : Nat
  deriving DecidableEq, Repr

namespace IdSupply

/-- The number of free bits of an identity. -/
def freeBits : Nat := 122

/-- The distance from one identity to the next; odd, so that it visits all of them. -/
def stride : Nat := 0x2545F4914F6CDD1D9E3779B97F4A7C1

/-- A number with the given count of hexadecimal digits. -/
def hexDigits : Nat → Nat → List Char
  | 0, _ => []
  | count + 1, n => hexDigits count (n / 16) ++ [Nat.digitChar (n % 16)]

/-- The UUID with the given free bits. -/
def uuid (bits : Nat) : List Char :=
  hexDigits 8 (bits / powerOfTwo 90) ++ ['-'] ++ hexDigits 4 (bits / powerOfTwo 74) ++ ['-', '4']
    ++ hexDigits 3 (bits / powerOfTwo 62) ++ ['-'] ++ hexDigits 1 (8 + bits / powerOfTwo 60 % 4)
    ++ hexDigits 3 (bits / powerOfTwo 48) ++ ['-'] ++ hexDigits 12 bits

/-- The free bits of the identity that is drawn next. -/
def nextBits (s : IdSupply) : Nat := (s.seed + s.issued * stride) % powerOfTwo freeBits

/-- Draws an identity (`TableId::generate`). -/
def draw (s : IdSupply) : TableId × IdSupply :=
  (⟨"table-" ++ String.ofList (uuid s.nextBits)⟩, { s with issued := s.issued + 1 })

theorem length_hexDigits (count n : Nat) : (hexDigits count n).length = count := by
  induction count generalizing n with
  | zero => rfl
  | succ count ih => simp [hexDigits, ih]

theorem length_uuid (bits : Nat) : (uuid bits).length = 36 := by
  simp [uuid, length_hexDigits]

theorem stride_odd : stride % 2 = 1 := by decide

end IdSupply

end SchemaGraph
