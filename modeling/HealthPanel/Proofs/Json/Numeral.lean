import HealthPanel.Proofs.Json.Grammar
import Mathlib.Data.List.TakeWhile

/-!
# Numerals as JSON spells them

The reader takes numerals as the grammar spells them, up to a byte that does not go on with the
numeral. What a numeral without point and exponent means is the integer that its digits write, if
it fits, and no other numeral means an integer.
-/

namespace HealthPanel.Json

variable {ended : Cause} {digits : List Nat} {bytes rest s : List UInt8}

/-- What comes next does not go on with digits. -/
def EndsDigits (rest : List UInt8) : Prop :=
  ∀ b ∈ rest.head?, isDigit b = false

/-- What comes next does not go on with a numeral. -/
def EndsNumeral (rest : List UInt8) : Prop :=
  ∀ b ∈ rest.head?, isDigit b = false ∧ b ≠ 0x2E ∧ b ≠ 0x65 ∧ b ≠ 0x45

/-! ## Digits -/

/-- All digits in front are taken. -/
theorem takeDigits_append (areDigits : ∀ b ∈ bytes, isDigit b) (ends : EndsDigits rest) :
    takeDigits (bytes ++ rest) = (bytes.map digitValue, rest) := by
  have hnone : rest.takeWhile isDigit = [] ∧ rest.dropWhile isDigit = rest := by
    cases rest with
    | nil => simp
    | cons b rest => simp [ends b rfl]
  rw [takeDigits, List.takeWhile_append_of_pos areDigits, List.dropWhile_append_of_pos areDigits,
    hnone.1, hnone.2, List.append_nil]

/-- Digits that are taken stand in front. -/
theorem spellsDigits_of_takeDigits (h : takeDigits s = (digits, rest)) (nonempty : digits ≠ []) :
    ∃ bytes, SpellsDigits digits bytes ∧ s = bytes ++ rest := by
  obtain ⟨rfl, rfl⟩ := Prod.mk.inj h
  refine ⟨s.takeWhile isDigit, ⟨by simpa using nonempty, fun b => List.mem_takeWhile_imp, rfl⟩, ?_⟩
  exact List.takeWhile_append_dropWhile.symm

/-- Digits that are spelled are taken. -/
theorem SpellsDigits.takeDigits_eq (h : SpellsDigits digits bytes) (ends : EndsDigits rest) :
    takeDigits (bytes ++ rest) = (digits, rest) ∧ digits ≠ [] := by
  obtain ⟨nonempty, areDigits, rfl⟩ := h
  exact ⟨takeDigits_append areDigits ends, by simpa using nonempty⟩

/-! ## The parts of a numeral -/

/-- What is read as a whole part spells its digits. -/
theorem spellsWhole_of_readWhole (h : readWhole ended s = .ok (digits, rest)) :
    ∃ bytes, SpellsWhole digits bytes ∧ s = bytes ++ rest := by
  cases s with
  | nil => cases h
  | cons b s =>
    rw [readWhole] at h
    split at h
    case isTrue hzero =>
      subst hzero
      split at h
      case isTrue => cases h
      case isFalse =>
        cases h
        exact ⟨[0x30], ⟨⟨by simp, by simp [isDigit], rfl⟩, fun _ => rfl⟩, rfl⟩
    case isFalse hzero =>
      split at h
      case isTrue hdigit =>
        have htake := Except.ok.inj h
        have hnonempty : digits ≠ [] := by
          rintro rfl
          simp [takeDigits, hdigit] at htake
        obtain ⟨bytes, hspelled, hbytes⟩ := spellsDigits_of_takeDigits htake hnonempty
        refine ⟨bytes, ⟨hspelled, fun hhead => absurd ?_ hzero⟩, hbytes⟩
        obtain ⟨tail, rfl⟩ := List.head?_eq_some_iff.mp hhead
        exact (List.cons.inj hbytes).1
      case isFalse => cases h

/-- What spells a whole part is read as its digits, if no digit comes behind it. -/
theorem SpellsWhole.readWhole_eq (h : SpellsWhole digits bytes) (ends : EndsDigits rest) :
    readWhole ended (bytes ++ rest) = .ok (digits, rest) := by
  obtain ⟨⟨nonempty, areDigits, rfl⟩, hzero⟩ := h
  obtain ⟨b, bytes, rfl⟩ := List.exists_cons_of_ne_nil nonempty
  have hb : isDigit b := areDigits b List.mem_cons_self
  by_cases hb0 : b = 0x30
  · subst hb0
    obtain rfl := (List.cons.inj (hzero rfl)).2
    have hnone : rest.head?.any isDigit = false := by
      cases rest with
      | nil => rfl
      | cons b rest => exact ends b rfl
    simp only [List.cons_append, List.nil_append, readWhole, if_true, hnone]
    rfl
  · rw [List.cons_append, readWhole, if_neg hb0, if_pos hb, ← List.cons_append,
      takeDigits_append areDigits ends]

/-- What is read as a fraction spells its digits. -/
theorem spellsFraction_of_readFraction (h : readFraction ended s = .ok (digits, rest)) :
    ∃ bytes, SpellsFraction digits bytes ∧ s = bytes ++ rest := by
  unfold readFraction at h
  split at h
  case h_1 s =>
    split at h
    case h_1 | h_2 => cases h
    case h_3 hnone hmore =>
      have htake := Except.ok.inj h
      have hnonempty : digits ≠ [] := by
        rintro rfl
        cases rest with
        | nil => exact hnone htake
        | cons b rest => exact hmore b rest htake
      obtain ⟨bytes, hspelled, rfl⟩ := spellsDigits_of_takeDigits htake hnonempty
      exact ⟨0x2E :: bytes, .point hspelled, rfl⟩
  case h_2 =>
    cases h
    exact ⟨[], .absent, rfl⟩

/-- What spells a fraction is read as its digits, if neither a digit nor a point comes behind it. -/
theorem SpellsFraction.readFraction_eq (h : SpellsFraction digits bytes)
    (ends : ∀ b ∈ rest.head?, isDigit b = false ∧ b ≠ 0x2E) :
    readFraction ended (bytes ++ rest) = .ok (digits, rest) := by
  cases h with
  | absent =>
    cases rest with
    | nil => rfl
    | cons b rest =>
      rw [List.nil_append]
      unfold readFraction
      split
      case h_1 heq => exact absurd (List.cons.inj heq).1 (ends b rfl).2
      case h_2 => rfl
  | point spelled =>
    obtain ⟨htake, hnonempty⟩ := spelled.takeDigits_eq fun b hb => (ends b hb).1
    rw [List.cons_append, readFraction, htake]
    split
    case h_1 heq | h_2 heq => exact absurd (Prod.mk.inj heq).1 hnonempty
    case h_3 => rfl

/-- What is read as the sign of an exponent spells it. -/
theorem spellsSign_readExponentSign (s : List UInt8) :
    ∃ bytes, SpellsSign (readExponentSign s).1 bytes ∧ s = bytes ++ (readExponentSign s).2 := by
  unfold readExponentSign
  split
  · exact ⟨[0x2B], .plus, rfl⟩
  · exact ⟨[0x2D], .minus, rfl⟩
  · exact ⟨[], .absent, rfl⟩

/-- What spells the sign of an exponent is read as it, if a digit comes behind it. -/
theorem SpellsSign.readExponentSign_eq {negative : Bool} (h : SpellsSign negative bytes)
    (digit : ∃ b ∈ rest.head?, isDigit b) :
    readExponentSign (bytes ++ rest) = (negative, rest) := by
  cases h with
  | plus | minus => rfl
  | absent =>
    obtain ⟨b, hb, hdigit⟩ := digit
    obtain ⟨tail, rfl⟩ := List.head?_eq_some_iff.mp hb
    rw [List.nil_append]
    unfold readExponentSign
    split
    case h_1 heq | h_2 heq =>
      rw [(List.cons.inj heq).1] at hdigit
      exact absurd hdigit (by decide)
    case h_3 => rfl

/-- What is read as an exponent spells it. -/
theorem spellsExponent_of_readExponent {exponent : Option Exponent}
    (h : readExponent ended s = .ok (exponent, rest)) :
    ∃ bytes, SpellsExponent exponent bytes ∧ s = bytes ++ rest := by
  cases s with
  | nil =>
    cases h
    exact ⟨[], .absent, rfl⟩
  | cons letter s =>
    rw [readExponent] at h
    split at h
    case isTrue hletter =>
      obtain ⟨sign, hsign, hs⟩ := spellsSign_readExponentSign s
      dsimp only at h
      split at h
      case h_1 | h_2 => cases h
      case h_3 digits left hnone hmore htake =>
        cases h
        have hnonempty : digits ≠ [] := by
          rintro rfl
          cases rest with
          | nil => exact hnone rfl rfl
          | cons b rest => exact hmore b rest rfl rfl
        obtain ⟨bytes, hspelled, hbytes⟩ := spellsDigits_of_takeDigits htake hnonempty
        refine ⟨letter :: (sign ++ bytes), .mark hletter hsign hspelled, ?_⟩
        rw [List.cons_append, List.append_assoc, ← hbytes, ← hs]
    case isFalse =>
      cases h
      exact ⟨[], .absent, rfl⟩

/-- What spells an exponent is read as it, if no numeral goes on behind it. -/
theorem SpellsExponent.readExponent_eq {exponent : Option Exponent}
    (h : SpellsExponent exponent bytes) (ends : EndsNumeral rest) :
    readExponent ended (bytes ++ rest) = .ok (exponent, rest) := by
  cases h with
  | absent =>
    cases rest with
    | nil => rfl
    | cons b rest =>
      obtain ⟨-, -, hlower, hupper⟩ := ends b rfl
      exact if_neg (not_or.mpr ⟨hlower, hupper⟩)
  | @mark negative digits letter sign bytes either signed spelled =>
    have hdigit : ∃ b ∈ (bytes ++ rest).head?, isDigit b := by
      obtain ⟨b, tail, rfl⟩ := List.exists_cons_of_ne_nil spelled.1
      exact ⟨b, rfl, spelled.2.1 b List.mem_cons_self⟩
    obtain ⟨htake, hnonempty⟩ := spelled.takeDigits_eq fun b hb => (ends b hb).1
    rw [List.cons_append, List.append_assoc, readExponent, if_pos either,
      signed.readExponentSign_eq hdigit]
    dsimp only
    rw [htake]
    split
    case h_1 heq | h_2 heq => exact absurd (Prod.mk.inj heq).1 hnonempty
    case h_3 heq =>
      cases heq
      rfl

/-! ## Numerals -/

/-- An exponent, or what may follow a numeral, goes on with neither digits nor a point. -/
theorem SpellsExponent.ends {exponent : Option Exponent} (h : SpellsExponent exponent bytes)
    (ends : EndsNumeral rest) : ∀ b ∈ (bytes ++ rest).head?, isDigit b = false ∧ b ≠ 0x2E := by
  cases h with
  | absent => exact fun b hb => ⟨(ends b hb).1, (ends b hb).2.1⟩
  | mark either =>
    rintro b ⟨⟩
    rcases either with rfl | rfl <;> decide

/-- A fraction, or what goes on without digits, goes on without digits. -/
theorem SpellsFraction.ends (h : SpellsFraction digits bytes) (ends : EndsDigits rest) :
    EndsDigits (bytes ++ rest) := by
  cases h with
  | absent => exact ends
  | point =>
    rintro b ⟨⟩
    decide

/-- What the reader takes for a numeral is one. -/
theorem spellsNumeral_of_readNumeral {numeral : Numeral}
    (h : readNumeral ended s = .ok (numeral, rest)) :
    ∃ bytes, SpellsNumeral numeral bytes ∧ s = bytes ++ rest := by
  unfold readNumeral at h
  dsimp only at h
  split at h
  case h_1 => cases h
  case h_2 whole afterWhole hwhole =>
    split at h
    case h_1 => cases h
    case h_2 fraction afterFraction hfraction =>
      split at h
      case h_1 => cases h
      case h_2 exponent afterExponent hexponent =>
        cases h
        obtain ⟨wholeBytes, spelledWhole, hs⟩ := spellsWhole_of_readWhole hwhole
        obtain ⟨fractionBytes, spelledFraction, rfl⟩ := spellsFraction_of_readFraction hfraction
        obtain ⟨exponentBytes, spelledExponent, rfl⟩ := spellsExponent_of_readExponent hexponent
        refine ⟨_, ⟨wholeBytes, fractionBytes, exponentBytes, spelledWhole, spelledFraction,
          spelledExponent, rfl⟩, ?_⟩
        rw [List.append_assoc, List.append_assoc, List.append_assoc, ← hs]
        by_cases hminus : s.head? = some 0x2D
        · obtain ⟨tail, rfl⟩ := List.head?_eq_some_iff.mp hminus
          rfl
        · simp [hminus]

/-- A numeral is read as it is spelled. -/
theorem SpellsNumeral.readNumeral_eq {numeral : Numeral} (h : SpellsNumeral numeral bytes)
    (ends : EndsNumeral rest) : readNumeral ended (bytes ++ rest) = .ok (numeral, rest) := by
  obtain ⟨whole, fraction, exponent, spelledWhole, spelledFraction, spelledExponent, rfl⟩ := h
  have hfraction := spelledExponent.ends ends
  have hwhole : EndsDigits (fraction ++ (exponent ++ rest)) :=
    spelledFraction.ends fun b hb => (hfraction b hb).1
  have hunsigned : (whole ++ (fraction ++ (exponent ++ rest))).head? ≠ some 0x2D := by
    obtain ⟨b, tail, rfl⟩ := List.exists_cons_of_ne_nil spelledWhole.1.1
    have hdigit := spelledWhole.1.2.1 b List.mem_cons_self
    rintro ⟨⟩
    exact absurd hdigit (by decide)
  obtain ⟨negative, wholeDigits, fractionDigits, exponentParts⟩ := numeral
  cases negative with
  | true =>
    simp only [if_true, List.cons_append, List.nil_append, List.append_assoc, readNumeral,
      List.head?_cons, decide_true, List.drop_one, List.tail_cons,
      spelledWhole.readWhole_eq hwhole, spelledFraction.readFraction_eq hfraction,
      spelledExponent.readExponent_eq ends]
  | false =>
    simp only [Bool.false_eq_true, if_false, List.nil_append, List.append_assoc, readNumeral,
      hunsigned, decide_false, spelledWhole.readWhole_eq hwhole,
      spelledFraction.readFraction_eq hfraction, spelledExponent.readExponent_eq ends]

/-! ## Integers -/

/-- More digits write no smaller number. -/
theorem le_foldl_decimal (digits : List Nat) (start : Nat) :
    start ≤ digits.foldl (fun n d => n * 10 + d) start := by
  induction digits generalizing start with
  | nil => exact Nat.le_refl _
  | cons d digits ih =>
    calc
      start ≤ start * 10 + d := by omega
      _ ≤ _ := ih _

/-- Digits are absorbed while the number they write stays within the bound. -/
theorem absorb_eq_foldl {bound : Nat} (digits : List Nat) (start : Nat)
    (within : digits.foldl (fun n d => n * 10 + d) start ≤ bound) :
    absorb bound start digits = (digits.foldl (fun n d => n * 10 + d) start, []) := by
  induction digits generalizing start with
  | nil => rfl
  | cons d digits ih =>
    have hstep : start * 10 + d ≤ bound := (le_foldl_decimal digits _).trans within
    rw [absorb, if_pos hstep]
    exact ih _ within

/-- A numeral that means an integer is read as this integer. -/
theorem Numeral.MeansInteger.means {numeral : Numeral} {number : Number}
    (h : numeral.MeansInteger number) : numeral.Means number := by
  have habsorb {whole : List Nat} (hwithin : decimalValue whole ≤ UInt64.size - 1) :
      absorb (UInt64.size - 1) 0 whole = (decimalValue whole, []) :=
    absorb_eq_foldl whole 0 hwithin
  cases h with
  | @unsigned whole fits =>
    have hwithin : decimalValue whole ≤ UInt64.size - 1 := Nat.le_pred_of_lt fits
    simp only [Means, Numeral.number, habsorb hwithin, and_self, if_true, ofInteger]
  | @negative whole nonzero fits =>
    have hwithin : decimalValue whole ≤ UInt64.size - 1 := fits.trans (by decide)
    have hhalf : 0 < decimalValue whole ∧ decimalValue whole ≤ UInt64.size / 2 :=
      ⟨Nat.pos_of_ne_zero nonzero, fits⟩
    simp only [Means, Numeral.number, habsorb hwithin, and_self, if_true, ofInteger,
      reduceCtorEq, if_false, hhalf]

/-- What is absorbed to the last digit is the number that the digits write, within the bound. -/
theorem foldl_of_absorb {bound start n : Nat} {digits : List Nat} (within : start ≤ bound)
    (h : absorb bound start digits = (n, [])) :
    digits.foldl (fun n d => n * 10 + d) start = n ∧ n ≤ bound := by
  induction digits generalizing start with
  | nil =>
    obtain rfl := (Prod.mk.inj h).1
    exact ⟨rfl, within⟩
  | cons d digits ih =>
    rw [absorb] at h
    split at h
    case isTrue hstep => exact ih hstep h
    case isFalse => cases h

/-- A numeral with a fraction or an exponent is no integer. -/
theorem Numeral.ofScaled_ne_integer {negative : Bool} {significand : Nat} {exponent n : Int} :
    Numeral.ofScaled negative significand exponent ≠ .ok (.integer n) := by
  rw [Numeral.ofScaled]
  split
  case h_1 => rintro ⟨⟩
  case h_2 => rintro ⟨⟩

/-- A numeral is read as an integer only if it means this integer: with a point or an exponent, or
with digits beyond 64 bits, it is read as a double. -/
theorem Numeral.Means.meansInteger {numeral : Numeral} {n : Int}
    (h : numeral.Means (.integer n)) : numeral.MeansInteger (.integer n) := by
  obtain ⟨negative, whole, fraction, exponent⟩ := numeral
  rw [Means, number] at h
  dsimp only at h
  obtain ⟨value, rest, habsorb⟩ : ∃ value rest, absorb (UInt64.size - 1) 0 whole = (value, rest) :=
    ⟨_, _, rfl⟩
  rw [habsorb] at h
  dsimp only at h
  split at h
  case isTrue hplain =>
    obtain ⟨rfl, rfl, rfl⟩ := hplain
    obtain ⟨rfl, hfits⟩ := foldl_of_absorb (Nat.zero_le _) habsorb
    have hinteger := Except.ok.inj h
    rw [ofInteger] at hinteger
    split at hinteger
    case isTrue hsign =>
      cases hinteger
      subst hsign
      exact .unsigned (Nat.lt_of_le_pred (by decide) hfits)
    case isFalse hsign =>
      obtain rfl : negative = true := by simpa using hsign
      split at hinteger
      case isTrue hhalf =>
        cases hinteger
        exact .negative hhalf.1.ne' hhalf.2
      case isFalse => cases hinteger
  case isFalse =>
    split at h
    case h_1 => exact absurd h ofScaled_ne_integer
    case h_2 =>
      split at h
      case h_1 => exact absurd h ofScaled_ne_integer
      case h_2 =>
        split at h
        case isTrue => cases h
        case isFalse => cases h

end HealthPanel.Json
