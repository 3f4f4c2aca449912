import HealthPanel.Decimal.Layout

/-!
# Numbers as JSON writes and means them

A numeral is the digits of a number as they stand in a text. It means an exact integer when it
has neither point nor exponent and fits 64 bits, and a double otherwise. The double is the
leading digits that fit 64 bits, scaled once by a power of ten; a magnitude beyond the doubles
is refused. Negative zero is a double.
-/

namespace HealthPanel.Json

/-- The exponent of a numeral. -/
structure Exponent where
  negative : Bool
  digits : List Nat
  deriving DecidableEq

/-- The digits of a number as it is written. The fraction is empty when there is no point. -/
structure Numeral where
  negative : Bool
  whole : List Nat
  fraction : List Nat
  exponent : Option Exponent
  deriving DecidableEq

/-- A JSON number. -/
inductive Number
  | integer (value : Int)
  | double (value : Float)
  deriving DecidableEq

/-- Appends digits to a number while it stays within the bound; answers the digits left over. -/
def absorb (bound : Nat) : Nat → List Nat → Nat × List Nat
  | n, [] => (n, [])
  | n, d :: digits => if n * 10 + d ≤ bound then absorb bound (n * 10 + d) digits
    else (n, d :: digits)

/-- The largest power of ten that a single step scales by. -/
def largestStep : Nat := 308

/-- The double `x * 10 ^ exponent`, unless it is infinite. -/
def scale (x : Float) (exponent : Int) : Option Float :=
  if exponent.natAbs ≤ largestStep then
    let power := Float.ofScientific 1 false exponent.natAbs
    if 0 ≤ exponent then
      let scaled := x * power
      if scaled.isInf then none else some scaled
    else some (x / power)
  else if x == 0 then some x
  else if 0 ≤ exponent then none
  else scale (x / Float.ofScientific 1 false largestStep) (exponent + largestStep)
termination_by exponent.natAbs
decreasing_by simp only [largestStep] at *; omega

/-- The double of a sign and a magnitude. -/
def signed (negative : Bool) (x : Float) : Number :=
  .double (if negative then -x else x)

namespace Numeral

/-- The number of a numeral that has neither point nor exponent and whose digits fit 64 bits. -/
def ofInteger (negative : Bool) (magnitude : Nat) : Number :=
  if negative = false then .integer magnitude
  else if 0 < magnitude ∧ magnitude ≤ UInt64.size / 2 then .integer (-magnitude)
  else signed true magnitude.toUInt64.toFloat

/-- The double of the leading digits and a power of ten. The error is met with no digit left
unread. -/
def ofScaled (negative : Bool) (significand : Nat) (exponent : Int) : Except Nat Number :=
  match scale significand.toUInt64.toFloat exponent with
  | some x => .ok (signed negative x)
  | none => .error 0

/-- The number that a numeral means. The error says that it is out of range, and how many digits
of the exponent were unread when that was known. -/
def number (numeral : Numeral) : Except Nat Number :=
  let (whole, wholeRest) := absorb (UInt64.size - 1) 0 numeral.whole
  if wholeRest = [] ∧ numeral.fraction = [] ∧ numeral.exponent = none then
    .ok (ofInteger numeral.negative whole)
  else
    let (significand, fractionRest) := absorb (UInt64.size - 1) whole numeral.fraction
    let shift : Int := wholeRest.length - (numeral.fraction.length - fractionRest.length : Int)
    match numeral.exponent with
    | none => ofScaled numeral.negative significand shift
    | some exponent =>
      match absorb (UInt32.size / 2 - 1) 0 exponent.digits with
      | (n, []) =>
        ofScaled numeral.negative significand (if exponent.negative then shift - n else shift + n)
      | (_, _ :: unread) =>
        if significand ≠ 0 ∧ exponent.negative = false then .error unread.length
        else .ok (signed numeral.negative 0)

end Numeral

namespace Number

/-- Integers agree when they are the same; doubles when they are numerically equal, so the two
zeros agree. -/
def agrees : Number → Number → Bool
  | integer m, integer n => m = n
  | double x, double y => x == y
  | _, _ => false

/-- A double is positional while its point stands within sixteen digits and fewer than five
zeros follow the point; a whole double ends in `.0`. -/
def layout : Decimal.Layout :=
  { pointAtMost := some 16, leadingZerosBelow := some 5, wholeSuffix := ".0",
    exponentMark := "e+", tie := .toEven }

/-- The text of a number. -/
def render : Number → String
  | integer value => toString value
  | double value => layout.render value

end Number

end HealthPanel.Json
