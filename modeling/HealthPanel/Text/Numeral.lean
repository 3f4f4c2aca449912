/-!
# Numerals

A numeral is a number in decimal digits, with an optional plus sign before them. It is read when
the number fits 64 bits.
-/

namespace HealthPanel.Text

/-- The value of a decimal digit. -/
def digitValue? (c : Char) : Option Nat :=
  if '0' ≤ c ∧ c ≤ '9' then some (c.toNat - '0'.toNat) else none

/-- The number that digits write after the digits of another number. -/
def absorbDigits? (n : Nat) (digits : List Char) : Option Nat :=
  digits.foldlM (fun n c => (digitValue? c).map (n * 10 + ·)) n

/-- The digits of a numeral. -/
def numeralDigits : List Char → List Char
  | '+' :: digits => digits
  | digits => digits

/-- The number that a numeral writes. -/
def natural? (numeral : String) : Option Nat := do
  let digits := numeralDigits numeral.toList
  guard (digits ≠ [])
  let n ← absorbDigits? 0 digits
  guard (n < UInt64.size)
  return n

end HealthPanel.Text
