/-!
# The shortest decimal that reads back

A double stands for every real that rounds to it. Its shortest decimal is the one with the
fewest significant digits in that interval and, among those, the nearest to the double itself.
The search runs in exact natural arithmetic: for one digit, two digits and so on up to
seventeen, the two neighbours of the double on that decimal grid are tried.
-/

namespace HealthPanel

/-- A non-negative decimal, `significand * 10 ^ exponent`. -/
structure Decimal where
  significand : Nat
  exponent : Int
  deriving DecidableEq

namespace Decimal

/-- Where a value goes that lies halfway between two decimals. -/
inductive Tie
  | toEven
  | up
  deriving DecidableEq

/-- The magnitude of a finite double, `mantissa * 2 ^ exponent`, with the flag that the gap
below it is half the gap above. -/
structure Dyadic where
  mantissa : Nat
  exponent : Int
  narrowBelow : Bool

/-- Splits the bits of a finite double. -/
def Dyadic.ofFloat (x : Float) : Dyadic :=
  let bits := x.toBits.toNat
  let fraction : Nat := bits % 0x10000000000000
  let field : Nat := bits / 0x10000000000000 % 0x800
  if field = 0 then ⟨fraction, -1074, false⟩
  else ⟨0x10000000000000 + fraction, (field : Int) - 1075, fraction = 0 ∧ 1 < field⟩

/-- The double next to a whole number, and of two that are equally near the one with an even
mantissa. -/
def Dyadic.ofNat (n : Nat) : Dyadic :=
  let size := n.log2 + 1
  if size ≤ 53 then
    let mantissa := n * Nat.pow 2 (53 - size)
    ⟨mantissa, (size : Int) - 53, mantissa = 0x10000000000000⟩
  else
    let unit := Nat.pow 2 (size - 53)
    let below := n / unit
    let isBelow := 2 * (n % unit) < unit ∨ 2 * (n % unit) = unit ∧ below % 2 = 0
    let mantissa := if isBelow then below else below + 1
    if mantissa = 0x20000000000000 then ⟨0x10000000000000, (size : Int) - 52, true⟩
    else ⟨mantissa, (size : Int) - 53, mantissa = 0x10000000000000⟩

/-- An interval of reals around a value, all over one denominator. -/
structure Interval where
  low : Nat
  value : Nat
  high : Nat
  denominator : Nat
  closed : Bool

/-- The reals that round to a double, the ends included when its mantissa is even. -/
def Dyadic.interval (d : Dyadic) : Interval :=
  let scale := Nat.pow 2 (d.exponent - 2).toNat
  { low := (4 * d.mantissa - if d.narrowBelow then 1 else 2) * scale
    value := 4 * d.mantissa * scale
    high := (4 * d.mantissa + 2) * scale
    denominator := Nat.pow 2 (2 - d.exponent).toNat
    closed := d.mantissa % 2 = 0 }

/-- The interval measured in units of `10 ^ exponent`. -/
def Interval.inUnits (i : Interval) (exponent : Int) : Interval :=
  let scale := Nat.pow 10 (-exponent).toNat
  { i with
    low := i.low * scale
    value := i.value * scale
    high := i.high * scale
    denominator := i.denominator * Nat.pow 10 exponent.toNat }

/-- Whether the interval holds a whole number. -/
def Interval.holds (i : Interval) (n : Nat) : Bool :=
  let point := n * i.denominator
  if i.closed then i.low ≤ point ∧ point ≤ i.high else i.low < point ∧ point < i.high

/-- The whole number of the interval next to its value, if one of the two neighbours is in it. -/
def Interval.nearest? (i : Interval) (tie : Tie) : Option Nat :=
  let below := i.value / i.denominator
  let above := below + 1
  match i.holds below, i.holds above with
  | false, false => none
  | true, false => some below
  | false, true => some above
  | true, true =>
    let down := i.value - below * i.denominator
    let up := above * i.denominator - i.value
    if down < up then some below
    else if up < down then some above
    else if tie = .toEven ∧ below % 2 = 0 then some below
    else some above

/-- The power of ten just above the value: the least `p` with `value < 10 ^ p`. -/
def Interval.magnitude (i : Interval) : Int :=
  if i.denominator ≤ i.value then (Nat.toDigits 10 (i.value / i.denominator)).length
  else 1 - ((Nat.toDigits 10 ((i.denominator - 1) / i.value)).length : Int)

/-- Drops the final zeros of a significand, at most `fuel` of them. -/
def trim : Nat → Decimal → Decimal
  | 0, d => d
  | fuel + 1, d =>
    if d.significand ≠ 0 ∧ d.significand % 10 = 0 then
      trim fuel ⟨d.significand / 10, d.exponent + 1⟩
    else d

/-- The decimal of a double with some significant digits, if one of these reads back. Its final
zeros are dropped. -/
def Interval.onGrid? (i : Interval) (tie : Tie) (digits : Nat) : Option Decimal :=
  let unit := i.magnitude - digits
  ((i.inUnits unit).nearest? tie).map fun n => trim 18 ⟨n, unit⟩

/-- The shortest decimal that reads back as a double. -/
def Dyadic.shortest (tie : Tie) (d : Dyadic) : Decimal :=
  if d.mantissa = 0 then ⟨0, 0⟩
  else ((List.range' 1 17).findSome? (d.interval.onGrid? tie)).getD ⟨0, 0⟩

end Decimal

end HealthPanel
