import SchemaGraph.Power

/-!
# Binary floating point and decimals, exactly

A finite number of 64-bit binary floating point is `mantissa * 2 ^ exponent`. Here it is taken
apart, and the nearest such number to a given fraction is found, both in exact arithmetic on
naturals. Products and quotients are the nearest numbers to the exact ones.
-/

namespace SchemaGraph.Decimal

/-- A binary floating-point number taken apart. -/
inductive Parts where
  | undefined
  | infinite (negative : Bool)
  | finite (negative : Bool) (mantissa : Nat) (exponent : Int)
  deriving DecidableEq, Repr

def storedBits : Nat := 52

def leastExponent : Int := -1074

/-- The parts of the number with the given bits. -/
def partsOfBits (bits : Nat) : Parts :=
  let negative := bits / powerOfTwo 63 % 2 == 1
  let biased : Nat := bits / powerOfTwo storedBits % powerOfTwo 11
  let low := bits % powerOfTwo storedBits
  if biased = 2047 then (if low = 0 then .infinite negative else .undefined)
  else if biased = 0 then .finite negative low leastExponent
  else .finite negative (low + powerOfTwo storedBits) ((biased : Int) - 1 + leastExponent)

def partsOf (x : Float) : Parts := partsOfBits x.toBits.toNat

/-- The quotient rounded to the nearest whole number, a half to the even neighbour. -/
def divideToEven (num den : Nat) : Nat :=
  let below := num / den
  let twice := 2 * (num % den)
  if twice < den then below
  else if den < twice then below + 1
  else below + below % 2

/-- `num / den / 2 ^ exponent`, rounded to the nearest whole number. -/
def scaled (num den : Nat) (exponent : Int) : Nat :=
  divideToEven (num * powerOfTwo (-exponent).toNat) (den * powerOfTwo exponent.toNat)

/-- The exponent at which `num / den` has a mantissa of full length, but not below the least. -/
def exponentFor (num den : Nat) : Int :=
  let guess : Int := (num.log2 : Int) - den.log2 - storedBits
  let full :=
    den * powerOfTwo guess.toNat * powerOfTwo storedBits ≤ num * powerOfTwo (-guess).toNat
  max leastExponent (if full then guess else guess - 1)

/-- The bits of the nearest number to `num / den`, a half going to the even mantissa; none when
that number is infinite. A mantissa rounded up to the next power of two carries into the exponent,
because the stored exponent stands right above the stored mantissa. -/
def nearestBits? (num den : Nat) : Option Nat :=
  if num = 0 then some 0
  else
    let exponent := exponentFor num den
    let bits := (exponent - leastExponent).toNat * powerOfTwo storedBits + scaled num den exponent
    if bits < 2047 * powerOfTwo storedBits then some bits else none

/-- A finite number as a fraction of naturals, without its sign. -/
def fractionOf (bits : Nat) : Nat × Nat :=
  match partsOfBits bits with
  | .finite _ mantissa exponent =>
    (mantissa * powerOfTwo exponent.toNat, powerOfTwo (-exponent).toNat)
  | _ => (0, 1)

/-- The nearest number to the product of two positive ones; none when it is infinite. -/
def product? (x y : Nat) : Option Nat :=
  nearestBits? ((fractionOf x).1 * (fractionOf y).1) ((fractionOf x).2 * (fractionOf y).2)

/-- The nearest number to the quotient of two positive ones; none when it is infinite. -/
def quotient? (x y : Nat) : Option Nat :=
  nearestBits? ((fractionOf x).1 * (fractionOf y).2) ((fractionOf x).2 * (fractionOf y).1)

end SchemaGraph.Decimal
