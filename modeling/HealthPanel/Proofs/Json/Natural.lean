import HealthPanel.Proofs.Json.Blanks

/-!
# Natural numbers as JSON spells them

A natural number is spelled by its decimal digits, and read back if it fits 64 bits and what comes
after it does not go on with the numeral.
-/

namespace HealthPanel.Json

open HealthPanel.Text (digitByte toNat_digitByte)

variable {n : Nat} {rest : List UInt8}

/-- What may come after a value of a record: nothing, or first of all a blank, a comma or the
closing brace. -/
def EndsValue (rest : List UInt8) : Prop :=
  ∀ b ∈ rest.head?, isBlank b ∨ b = 0x2C ∨ b = 0x7D

/-! ## Digits as bytes -/

/-- A digit as a byte is a digit. -/
theorem isDigit_digitByte {c : Char} (h : c.isDigit) : isDigit (digitByte c) := by
  have hdigit := Char.isDigit_iff_toNat.mp h
  simp only [Char.reduceToNat] at hdigit
  simp [isDigit, UInt8.le_iff_toNat_le, toNat_digitByte h, hdigit]

/-- A number above zero starts with a digit other than zero. -/
theorem exists_digits_eq_cons (hpos : 0 < n) :
    ∃ c digits, Nat.toDigits 10 n = c :: digits ∧ c.isDigit ∧ digitByte c ≠ 0x30 := by
  cases hdigits : Nat.toDigits 10 n with
  | nil => exact absurd hdigits Nat.toDigits_ne_nil
  | cons c digits =>
    have hmem : c ∈ Nat.toDigits 10 n := hdigits ▸ List.mem_cons_self
    have hc : c.isDigit := Nat.isDigit_of_mem_toDigits (by decide) (by decide) hmem
    refine ⟨c, digits, rfl, hc, fun hzero => ?_⟩
    have hne := Text.head?_toDigits_ne hpos
    rw [hdigits, List.head?_cons] at hne
    refine hne (congrArg some (Char.toNat_inj.mp ?_))
    rw [← toNat_digitByte hc, hzero]
    rfl

/-! ## Reading -/

/-- What ends a value does not go on with a numeral. -/
theorem EndsValue.endsNumeral (ends : EndsValue rest) : EndsNumeral rest := by
  intro b hb
  rcases ends b hb with hblank | rfl | rfl
  · exact not_numeral_of_isBlank hblank
  · decide
  · decide

/-- The digits of a number are a numeral, with a minus sign before them or without. -/
theorem spellsNumeral_toDigits (negative : Bool) (n : Nat) :
    SpellsNumeral ⟨negative, (Nat.toDigits 10 n).map fun c => c.toNat - 0x30, [], none⟩
      ((if negative then [0x2D] else []) ++ (Nat.toDigits 10 n).map digitByte) := by
  have hall : ∀ c ∈ Nat.toDigits 10 n, c.isDigit := fun c =>
    Nat.isDigit_of_mem_toDigits (by decide) (by decide)
  have hdigits : SpellsDigits ((Nat.toDigits 10 n).map fun c => c.toNat - 0x30)
      ((Nat.toDigits 10 n).map digitByte) := by
    refine ⟨by simp [Nat.toDigits_ne_nil], ?_, ?_⟩
    · simpa using fun c hc => isDigit_digitByte (hall c hc)
    · rw [List.map_map]
      refine List.map_congr_left fun c hc => ?_
      rw [Function.comp_apply, digitValue, toNat_digitByte (hall c hc)]
  have hhead (h : ((Nat.toDigits 10 n).map digitByte).head? = some 0x30) :
      (Nat.toDigits 10 n).map digitByte = [0x30] := by
    rcases Nat.eq_zero_or_pos n with rfl | hpos
    · rfl
    · obtain ⟨c, digits, hparts, -, hzero⟩ := exists_digits_eq_cons hpos
      exact absurd h (by simpa [hparts] using hzero)
  exact ⟨_, [], [], ⟨hdigits, hhead⟩, .absent, .absent, by simp⟩

/-- The digits of a number write it. -/
theorem decimalValue_toDigits (n : Nat) :
    decimalValue ((Nat.toDigits 10 n).map fun c => c.toNat - 0x30) = n := by
  conv_rhs => rw [← Nat.ofDigitChars_ten_toDigits (n := n)]
  simp [decimalValue, Nat.ofDigitChars, List.foldl_map, Nat.mul_comm]

/-- The digits of a number that fits 64 bits are read as it. -/
theorem readNumber_toDigits (hlt : n < UInt64.size) (ends : EndsValue rest) :
    readNumber ((Nat.toDigits 10 n).map digitByte ++ rest) = .ok (.integer n, rest) := by
  have hvalue := decimalValue_toDigits n
  have hmeans : Numeral.Means ⟨false, (Nat.toDigits 10 n).map fun c => c.toNat - 0x30, [], none⟩
      (.integer n) := by
    have hfits : decimalValue ((Nat.toDigits 10 n).map fun c => c.toNat - 0x30) < UInt64.size :=
      hvalue.symm ▸ hlt
    simpa only [hvalue] using (Numeral.MeansInteger.unsigned hfits).means
  rw [Numeral.Means] at hmeans
  have hread : readNumeral .endOfValue ((Nat.toDigits 10 n).map digitByte ++ rest) =
      .ok (⟨false, (Nat.toDigits 10 n).map fun c => c.toNat - 0x30, [], none⟩, rest) :=
    (spellsNumeral_toDigits false n).readNumeral_eq ends.endsNumeral
  simp only [readNumber, hread, hmeans]

end HealthPanel.Json
