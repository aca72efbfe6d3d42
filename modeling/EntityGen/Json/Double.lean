import EntityGen.Json.Decimal

/-!
# Numbers of double precision

A double is a natural number of 53 bits times a power of two.  This module
rounds a quotient of natural numbers to the nearest double (a tie goes to the
even one) and finds the shortest decimal number that reads back as a given
double.  All of it is exact arithmetic on natural numbers.
-/

namespace EntityGen.Json

/-- The number `mantissa * 2 ^ exponent`, with a mantissa below `2 ^ 53` and an
exponent from `-1074` to `971`. -/
structure Double where
  mantissa : Nat
  exponent : Int
  deriving DecidableEq, Repr, Inhabited

namespace Double

/-- The least exponent, which zero and the smallest numbers have. -/
def minExponent : Int := -1074

/-- The greatest exponent. -/
def maxExponent : Int := 971

/-- Zero. -/
def zero : Double := ⟨0, minExponent⟩

/-- The quotient `numerator / denominator` to the nearest natural number, a tie
to the even one. -/
def divideToEven (numerator denominator : Nat) : Nat :=
  let quotient := numerator / denominator
  let twice := 2 * (numerator % denominator)
  if twice < denominator then quotient
  else if denominator < twice then quotient + 1
  else quotient + quotient % 2

/-- The exponent of the double nearest to a positive quotient. -/
def exponentOf (numerator denominator : Nat) : Int :=
  let guess : Int := (numerator.log2 : Int) - denominator.log2 - 53
  let large := denominator <<< (guess + 53).toNat ≤ numerator <<< (-(guess + 53)).toNat
  max minExponent (if large then guess + 1 else guess)

/-- The double nearest to `numerator / denominator`, unless that is too large. -/
def ofQuotient? (numerator denominator : Nat) : Option Double :=
  if numerator = 0 then some zero
  else
    let exponent := exponentOf numerator denominator
    let mantissa :=
      divideToEven (numerator <<< (-exponent).toNat) (denominator <<< exponent.toNat)
    let rounded : Double :=
      if mantissa = 1 <<< 53 then ⟨1 <<< 52, exponent + 1⟩ else ⟨mantissa, exponent⟩
    if maxExponent < rounded.exponent then none else some rounded

/-- The double as a quotient of natural numbers. -/
def numerator (d : Double) : Nat := d.mantissa <<< d.exponent.toNat

/-- The denominator that belongs to `numerator`, a power of two. -/
def denominator (d : Double) : Nat := 1 <<< (-d.exponent).toNat

/-- The product to the nearest double, unless that is too large. -/
def mul? (a b : Double) : Option Double :=
  ofQuotient? (a.numerator * b.numerator) (a.denominator * b.denominator)

/-- The quotient to the nearest double, unless that is too large. -/
def div? (a b : Double) : Option Double :=
  ofQuotient? (a.numerator * b.denominator) (a.denominator * b.numerator)

/-- The double nearest to `10 ^ power`, for a power of at most 308. -/
def powerOfTen (power : Nat) : Double :=
  (ofQuotient? (Nat.pow 10 power) 1).getD zero

/-- Divide by a power of ten, in steps that `powerOfTen` covers; every step
rounds. -/
def divideByTens (d : Double) (power : Nat) : Double :=
  if d.mantissa = 0 then d
  else if power ≤ 308 then (d.div? (powerOfTen power)).getD zero
  else divideByTens ((d.div? (powerOfTen 308)).getD zero) (power - 308)
termination_by power

/-- Multiply by a power of ten with rounding, unless the product is too large. -/
def scale? (d : Double) (power : Int) : Option Double :=
  if power < 0 then some (d.divideByTens (-power).toNat)
  else if d.mantissa = 0 then some d
  else if power ≤ 308 then d.mul? (powerOfTen power.toNat)
  else none

/-- The multiple of `10 ^ power` that reads back as the double and is nearest to
it, the even one of two equally near.  A decimal reads back when it lies within
half the distance to the neighbouring doubles, and on that border when the
mantissa is even. -/
def multipleAt? (d : Double) (power : Int) : Option Nat :=
  let scaled (quarters : Nat) : Nat :=
    (quarters <<< (d.exponent - 2).toNat) * Nat.pow 10 (-power).toNat
  let unit := (1 <<< (2 - d.exponent).toNat) * Nat.pow 10 power.toNat
  let value := scaled (4 * d.mantissa)
  let below := if d.mantissa = 1 <<< 52 ∧ minExponent < d.exponent then 1 else 2
  let least := scaled (4 * d.mantissa - below)
  let greatest := scaled (4 * d.mantissa + 2)
  let readsBack (multiple : Nat) : Bool :=
    if d.mantissa % 2 = 0 then
      least ≤ multiple * unit && multiple * unit ≤ greatest
    else
      least < multiple * unit && multiple * unit < greatest
  let lower := value / unit
  let nearest := divideToEven value unit
  if readsBack nearest then some nearest
  else if readsBack lower then some lower
  else if readsBack (lower + 1) then some (lower + 1)
  else none

/-- The exact decimal form of the double. -/
def exact (d : Double) (negative : Bool) : Decimal :=
  if 0 ≤ d.exponent then ⟨negative, d.numerator, 0⟩
  else ⟨negative, d.mantissa * Nat.pow 5 (-d.exponent).toNat, d.exponent⟩

/-- The decimal number with the fewest digits that reads back as the double,
and of those the nearest: the first hit among falling powers of ten, begun above
the magnitude of the double. -/
def shortest (d : Double) (negative : Bool) : Decimal :=
  if d.mantissa = 0 then .zero negative
  else
    let bits : Int := d.exponent + d.mantissa.log2 + 1
    let start : Int := (bits * 30103).fdiv 100000 + 2
    let attempt (step : Nat) : Option Decimal :=
      (d.multipleAt? (start - step)).map fun digits => ⟨negative, digits, start - step⟩
    ((List.range 24).findSome? attempt).getD (d.exact negative)

end Double

end EntityGen.Json
