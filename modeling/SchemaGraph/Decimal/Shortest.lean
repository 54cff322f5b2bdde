import SchemaGraph.Decimal.Binary

/-!
# The shortest decimal that reads back

Of the decimals that round to a given binary number, the shortest is wanted, and of several shortest
ones the nearest. The decimals with a given last place form a grid. The grids are tried from coarse
to fine, and the first grid that has a point in the interval of numbers rounding to the given one
decides; on each grid only the two neighbours of the number need a look, since the interval holds a
grid point only if it holds one of them.
-/

namespace SchemaGraph.Decimal

/-- What happens to a number that lies half-way between two shortest decimals. -/
inductive Tie where
  | toEven
  | up
  deriving DecidableEq, Repr

structure Digits where
  coefficient : Nat
  exponent : Int
  deriving DecidableEq, Repr

/-- The numbers that round to `mantissa * 2 ^ exponent`, in quarter units of the last place: from
`low` to `high`, with the number itself at `middle`. The ends belong to it if `closed`. -/
structure Interval where
  low : Nat
  middle : Nat
  high : Nat
  closed : Bool
  deriving DecidableEq, Repr

/-- The interval of a number. Below a power of two the neighbour is only half as far. -/
def intervalOf (mantissa : Nat) (exponent : Int) : Interval where
  low := if mantissa = powerOfTwo storedBits && exponent ≠ leastExponent then 4 * mantissa - 1
    else 4 * mantissa - 2
  middle := 4 * mantissa
  high := 4 * mantissa + 2
  closed := mantissa % 2 == 0

/-- A grid point between the ends of an interval, both given in the same unit. -/
def Interval.holds (i : Interval) (unit : Nat) (point : Nat) : Bool :=
  if i.closed then decide (i.low * unit ≤ point) && decide (point ≤ i.high * unit)
  else decide (i.low * unit < point) && decide (point < i.high * unit)

/-- The point of the grid `10 ^ place` in the interval that is nearest to its middle. One quarter
unit of the interval is `2 ^ exponent`. -/
def gridPoint? (tie : Tie) (i : Interval) (exponent place : Int) : Option Nat :=
  let step := powerOfTen place.toNat * powerOfTwo (-exponent).toNat
  let unit := powerOfTwo exponent.toNat * powerOfTen (-place).toNat
  let below := i.middle * unit / step
  let above := below + 1
  match i.holds unit (below * step), i.holds unit (above * step) with
  | false, false => none
  | true, false => some below
  | false, true => some above
  | true, true =>
    let down := i.middle * unit - below * step
    let rise := above * step - i.middle * unit
    if down < rise then some below
    else if rise < down then some above
    else match tie with
      | .up => some above
      | .toEven => some (if below % 2 = 0 then below else above)

def searchGrids (tie : Tie) (i : Interval) (exponent : Int) : Nat → Int → Digits
  | 0, place => ⟨0, place⟩
  | tries + 1, place =>
    match gridPoint? tie i exponent place with
    | some point => ⟨point, place⟩
    | none => searchGrids tie i exponent tries (place - 1)

/-- A place above the first digit of `mantissa * 2 ^ exponent`, by at most three. -/
def coarsePlace (mantissa : Nat) (exponent : Int) : Int :=
  (((mantissa.log2 : Int) + exponent) * 30103).fdiv 100000 + 2

/-- The shortest digits of `mantissa * 2 ^ exponent`. Seventeen digits always suffice. -/
def shortest (tie : Tie) (mantissa : Nat) (exponent : Int) : Digits :=
  if mantissa = 0 then ⟨0, 0⟩
  else searchGrids tie (intervalOf mantissa exponent) (exponent - 2) 21
    (coarsePlace mantissa exponent)

end SchemaGraph.Decimal
