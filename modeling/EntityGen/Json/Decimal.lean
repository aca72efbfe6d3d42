/-!
# Decimal numbers and their texts

A decimal number is a sign, a natural number of digits and a power of ten.  Its
text is either positional (`0.015`, `1500.0`) or scientific (`1.5e-7`, `2e+16`); a
JSON document writes the numbers whose decimal point stands near the digits
positionally and all others scientifically.
-/

namespace EntityGen.Json

/-- The number `digits * 10 ^ exponent` with a sign, which zero has too.  The
last digit is not zero unless the number is. -/
structure Decimal where
  negative : Bool
  digits : Nat
  exponent : Int
  deriving DecidableEq, Repr, Inhabited

namespace Decimal

/-- Zero, with a sign. -/
def zero (negative : Bool) : Decimal := ⟨negative, 0, 0⟩

/-- The digits, most significant first. -/
def digitChars (d : Decimal) : List Char := Nat.toDigits 10 d.digits

/-- Where the decimal point stands, counted from before the first digit. -/
def point (d : Decimal) : Int := d.digitChars.length + d.exponent

/-- The sign as it is written. -/
def signText (d : Decimal) : String := if d.negative then "-" else ""

/-- The text without an exponent; it always shows a decimal point. -/
def positional (d : Decimal) : String :=
  let digits := d.digitChars
  let unsigned :=
    if 0 ≤ d.exponent then
      digits ++ List.replicate d.exponent.toNat '0' ++ ['.', '0']
    else if 0 < d.point then
      digits.take d.point.toNat ++ '.' :: digits.drop d.point.toNat
    else
      '0' :: '.' :: List.replicate (-d.point).toNat '0' ++ digits
  d.signText ++ String.ofList unsigned

/-- The text with one digit before the decimal point and an exponent, whose sign is
always written. -/
def scientific (d : Decimal) : String :=
  let mantissa :=
    match d.digitChars with
    | first :: second :: rest => first :: '.' :: second :: rest
    | single => single
  let power := d.point - 1
  d.signText ++ String.ofList mantissa ++ (if power < 0 then "e-" else "e+") ++
    toString power.natAbs

/-- The text in a JSON document: positional while at most sixteen digits stand
before the decimal point and fewer than five zeros after it. -/
def toText (d : Decimal) : String :=
  if -5 < d.point ∧ d.point ≤ 16 then d.positional else d.scientific

end Decimal

end EntityGen.Json
