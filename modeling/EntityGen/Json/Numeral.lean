import EntityGen.Json.Double
import EntityGen.Json.Value

/-!
# Numbers as a document writes them

A numeral is the text of a number cut into sign, digits and power.  Its number
is an integer when it has neither fraction nor power and fits into 64 bits.  Any
other numeral is read in double precision: its leading digits, as many as fit
into 64 bits, are rounded to a double and then scaled by the power of ten that
is left, which rounds once more.
-/

namespace EntityGen.Json

/-- The text of a number, cut into its parts; digits most significant first. -/
structure Numeral where
  negative : Bool
  whole : List Nat
  fraction : List Nat
  power : Option Int
  deriving DecidableEq, Repr

namespace Numeral

/-- The value of a decimal digit. -/
def digit (c : Char) : Nat := c.toNat - '0'.toNat

/-- The digits at the beginning of a text, and the text after them. -/
def cutDigits (text : List Char) : List Nat × List Char :=
  ((text.takeWhile Char.isDigit).map digit, text.dropWhile Char.isDigit)

/-- The number that a list of digits denotes. -/
def ofDigits (digits : List Nat) : Nat := digits.foldl (fun n d => n * 10 + d) 0

/-- The fraction at the beginning of a text: nothing, or a point with at least
one digit. -/
def cutFraction? : List Char → Option (List Nat × List Char)
  | '.' :: text =>
    let (digits, rest) := cutDigits text
    if digits.isEmpty then none else some (digits, rest)
  | text => some ([], text)

/-- The power that a whole text denotes: nothing, or the letter `e` with an
optional sign and at least one digit. -/
def power? : List Char → Option (Option Int)
  | [] => some none
  | letter :: text =>
    if letter = 'e' ∨ letter = 'E' then
      let (negative, unsigned) : Bool × List Char :=
        match text with
        | '-' :: rest => (true, rest)
        | '+' :: rest => (false, rest)
        | rest => (false, rest)
      let (digits, rest) := cutDigits unsigned
      if digits.isEmpty || !rest.isEmpty then none
      else
        let size : Int := ofDigits digits
        some (some (if negative then -size else size))
    else none

/-- Cut the text of a number into its parts.  Before the point stands a single
zero or digits that do not begin with one. -/
def ofText? (text : List Char) : Option Numeral := do
  let (negative, unsigned) : Bool × List Char :=
    match text with
    | '-' :: rest => (true, rest)
    | rest => (false, rest)
  let (whole, afterWhole) := cutDigits unsigned
  if whole.isEmpty || (whole.head? == some 0 && whole.length != 1) then none
  let (fraction, afterFraction) ← cutFraction? afterWhole
  let power ← power? afterFraction
  return ⟨negative, whole, fraction, power⟩

/-- One more than the greatest significand, which has 64 bits. -/
def significandLimit : Nat := 1 <<< 64

/-- Append digits to a significand while they fit; with the digits left over. -/
def absorb (significand : Nat) : List Nat → Nat × List Nat
  | [] => (significand, [])
  | d :: rest =>
    if significand * 10 + d < significandLimit then absorb (significand * 10 + d) rest
    else (significand, d :: rest)

/-- The number that a numeral denotes, unless it is too large for a double.
Whole digits that do not fit count as a power of ten, and fractional digits that
do not fit are dropped. -/
def number? (n : Numeral) : Option Number :=
  let (head, wholeLeft) := absorb 0 n.whole
  let (significand, fractionLeft) := absorb head n.fraction
  let isInteger := n.fraction.isEmpty && n.power.isNone && wholeLeft.isEmpty
  if isInteger && !n.negative then some (.integer head)
  else if isInteger && head != 0 && head ≤ 1 <<< 63 then some (.integer (-head))
  else
    let absorbed := n.fraction.length - fractionLeft.length
    let power := (wholeLeft.length : Int) - absorbed + n.power.getD 0
    ((Double.ofQuotient? significand 1).bind (·.scale? power)).map fun double =>
      .decimal (double.shortest n.negative)

end Numeral

end EntityGen.Json
