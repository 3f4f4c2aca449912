import HealthPanel.Text.Hexadecimal
import HealthPanel.Yaml.Node

/-!
# What a scalar means

A plain scalar without a tag may be a word for nothing, a truth value, an integer in base ten,
sixteen, eight or two, or a decimal number; every other scalar is a text. Digits after a zero
make no number. Integers take 128 bits at most, and decimal numbers are finite unless their
infinity is spelled out.
-/

namespace HealthPanel.Yaml

/-- What a scalar means. -/
inductive Meaning
  | nothing
  | boolean (value : Bool)
  | integer (value : Int)
  | floating (value : Float)
  | text (value : String)

namespace Meaning

/-- Whether a text is a word for nothing. -/
def isNull (text : String) : Bool :=
  ["null", "Null", "NULL", "~"].contains text

/-- The truth value that a text spells. -/
def boolean? (text : String) : Option Bool :=
  if ["true", "True", "TRUE"].contains text then some true
  else if ["false", "False", "FALSE"].contains text then some false
  else none

/-- The characters after a sign, if that comes first. -/
def dropSign (sign : Char) (chars : List Char) : List Char :=
  if chars.head? = some sign then chars.drop 1 else chars

/-- Whether a text is a zero and then digits, perhaps after a sign. -/
def isPadded (chars : List Char) : Bool :=
  let body := if chars.head? = some '-' then chars.drop 1 else dropSign '+' chars
  1 < body.length && body.head? = some '0' && body.all Char.isDigit

/-! ## Integers -/

/-- The value of a digit in a base up to sixteen. -/
def digit? (base : Nat) (c : Char) : Option Nat := do
  guard (c.toNat < 128)
  let value ← Text.hexValue? c.toNat.toUInt8
  if value < base then some value else none

/-- The number that digits write in a base; there is one digit at least. -/
def digits? (base : Nat) (chars : List Char) : Option Nat := do
  guard (chars ≠ [])
  chars.foldlM (fun n c => return n * base + (← digit? base c)) 0

/-- The base that a text names in front, and the characters after that. -/
def splitBase (chars : List Char) : Option (Nat × List Char) :=
  match chars with
  | '0' :: 'x' :: rest => some (16, rest)
  | '0' :: 'o' :: rest => some (8, rest)
  | '0' :: 'b' :: rest => some (2, rest)
  | _ => none

/-- The natural number that a text writes without a minus sign. -/
def natural? (text : String) : Option Nat :=
  let chars := text.toList
  let body := dropSign '+' chars
  match splitBase body with
  | some (base, digits) => digits? base digits
  | none => if isPadded chars then none else digits? 10 body

/-- The magnitude of a number that a text writes with a minus sign. -/
def negative? (text : String) : Option Nat :=
  match text.toList with
  | '-' :: body =>
    match splitBase body with
    | some (base, digits) => digits? base digits
    | none => if isPadded body then none else digits? 10 body
  | _ => none

/-- The integer that a text writes in 128 bits. -/
def integer? (text : String) : Option Int :=
  match natural? text with
  | some n => if n < UInt64.size * UInt64.size then some n else none
  | none =>
    match negative? text with
    | some n => if n ≤ UInt64.size * UInt64.size / 2 then some (-n) else none
    | none => none

/-! ## Decimal numbers -/

/-- The digits in front of a text, and the characters after them. -/
def spanDigits (chars : List Char) : List Char × List Char :=
  chars.span Char.isDigit

/-- The number that digits write. -/
def value (digits : List Char) : Nat :=
  digits.foldl (fun n c => n * 10 + (c.toNat - 0x30)) 0

/-- The exponent that a text writes, with nothing after it. -/
def exponent? (chars : List Char) : Option Int :=
  match chars with
  | [] => some 0
  | e :: rest =>
    let digits := if rest.head? = some '-' then rest.drop 1 else dropSign '+' rest
    if (e = 'e' ∨ e = 'E') ∧ digits ≠ [] ∧ digits.all Char.isDigit then
      some (if rest.head? = some '-' then -value digits else value digits)
    else none

/-- The double nearest to `significand * 10 ^ exponent`, unless it is infinite. -/
def nearest? (significand : Nat) (exponent : Int) : Option Float :=
  let magnitude := (Nat.toDigits 10 significand).length + exponent
  if significand = 0 ∨ magnitude < -330 then some 0
  else if 310 < magnitude then none
  else
    let x := Float.ofScientific significand (exponent < 0) exponent.natAbs
    if x.isFinite then some x else none

/-- The double that a text without a sign writes. -/
def magnitude? (chars : List Char) : Option Float := do
  let (whole, rest) := spanDigits chars
  let (fraction, rest) := if rest.head? = some '.' then spanDigits (rest.drop 1) else ([], rest)
  guard (whole ≠ [] ∨ fraction ≠ [])
  nearest? (value (whole ++ fraction)) ((← exponent? rest) - fraction.length)

/-- The double that a text writes. -/
def floating? (text : String) : Option Float :=
  if [".inf", ".Inf", ".INF", "+.inf", "+.Inf", "+.INF"].contains text then some (1 / 0)
  else if ["-.inf", "-.Inf", "-.INF"].contains text then some (-1 / 0)
  else if [".nan", ".NaN", ".NAN"].contains text then some (0 / 0)
  else
    match text.toList with
    | '+' :: chars => magnitude? chars
    | '-' :: chars => (magnitude? chars).map (- ·)
    | chars => magnitude? chars

/-! ## Scalars -/

/-- The meaning of a plain scalar that has no tag of another kind. -/
def ofPlain (text : String) : Meaning :=
  if text = "" ∨ isNull text then .nothing
  else
    match boolean? text, integer? text with
    | some value, _ => .boolean value
    | none, some value => .integer value
    | none, none =>
      if isPadded text.toList then .text text
      else
        match floating? text with
        | some value => .floating value
        | none => .text text

end Meaning

end HealthPanel.Yaml
