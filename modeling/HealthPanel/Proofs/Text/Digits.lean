import HealthPanel.Proofs.Text.Utf8
import HealthPanel.Text.Hexadecimal
import HealthPanel.Text.Numeral

/-!
# Digits

A number above zero is written in decimal digits of which the first is not a zero, each of them one
byte, and a hexadecimal digit has the value it was written for.
-/

namespace HealthPanel.Text

/-- The digits of a number above zero do not start with a zero. -/
theorem head?_toDigits_ne {n : Nat} (hpos : 0 < n) : (Nat.toDigits 10 n).head? ≠ some '0' := by
  induction n using Nat.base_induction 10 (by decide) with
  | single n hn =>
    rw [Nat.toDigits_of_lt_base hn]
    revert n
    decide
  | digit n k hk hn ih =>
    rw [← Nat.toDigits_append_toDigits (by decide) hn hk,
      List.head?_append_of_ne_nil _ Nat.toDigits_ne_nil]
    exact ih hn

/-- Digits are read as the number they write if each of them is added with its value. -/
theorem foldlM_digits {step : Nat → Char → Option Nat}
    (adds : ∀ (n : Nat) (c : Char), c.isDigit → step n c = some (n * 10 + (c.toNat - '0'.toNat)))
    {digits : List Char} (all : ∀ c ∈ digits, c.isDigit) (n : Nat) :
    digits.foldlM step n = some (Nat.ofDigitChars 10 digits n) := by
  induction digits generalizing n with
  | nil => rfl
  | cons c digits ih =>
    obtain ⟨hc, hothers⟩ := List.forall_mem_cons.mp all
    rw [List.foldlM_cons, adds n c hc, Nat.ofDigitChars_cons, Nat.mul_comm 10]
    exact ih hothers _

/-- Decimal digits write a number after another. -/
theorem absorbDigits?_of_isDigit {digits : List Char} (all : ∀ c ∈ digits, c.isDigit) (n : Nat) :
    absorbDigits? n digits = some (Nat.ofDigitChars 10 digits n) := by
  refine foldlM_digits (fun n c hc => ?_) all n
  have hdigit := Char.isDigit_iff_toNat.mp hc
  have hvalue : digitValue? c = some (c.toNat - '0'.toNat) := if_pos ⟨hdigit.1, hdigit.2⟩
  rw [hvalue, Option.map_some]

/-- The byte of a digit. -/
def digitByte (c : Char) : UInt8 :=
  UInt8.ofNat c.toNat

/-- The byte of a digit has the number of the digit. -/
theorem toNat_digitByte {c : Char} (h : c.isDigit) : (digitByte c).toNat = c.toNat := by
  have hdigit := Char.isDigit_iff_toNat.mp h
  simp only [Char.reduceToNat] at hdigit
  rw [digitByte, UInt8.toNat_ofNat']
  omega

/-- A number is encoded as its digits. -/
theorem encode_toString (n : Nat) :
    Utf8.encode (toString n) = (Nat.toDigits 10 n).map digitByte := by
  rw [Nat.toString_eq_ofList_toDigits]
  refine Utf8.encode_of_ascii fun c hc => ?_
  have hdigit := Char.isDigit_iff_toNat.mp (Nat.isDigit_of_mem_toDigits (by decide) (by decide) hc)
  simp only [Char.reduceToNat] at hdigit
  omega

/-- The hexadecimal digit of a number is worth this number. -/
theorem hexValue?_hexDigit : ∀ n < 16, hexValue? (hexDigit n).toNat.toUInt8 = some n := by
  decide

end HealthPanel.Text
