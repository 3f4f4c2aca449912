import HealthPanel.Decimal.Layout
import Mathlib.Data.Nat.Digits.Lemmas

/-!
# Whole numbers as doubles

Every whole number up to 2^53 is a double itself, and no other whole number rounds to the same one.
So the shortest decimal that reads back as it has the value of the number, and with all its digits
written out it is the number as it is always written. Beyond, numbers that are next to the same
double have one text.
-/

namespace HealthPanel.Decimal

variable {n u j : Nat}

/-! ## The reals that round to a whole number -/

/-- The interval of a whole number is at most a half wide on either side of it. -/
theorem interval_ofNat (small : n < 2 ^ 53) :
    ∃ narrow k closed, narrow ≤ 1 ∧ (Dyadic.ofNat n).interval =
      ⟨n * 2 ^ (2 + k) - (2 - narrow), n * 2 ^ (2 + k), n * 2 ^ (2 + k) + 2, 2 ^ (2 + k),
        closed⟩ := by
  have hsize : n.log2 + 1 ≤ 53 := by
    by_cases hzero : n = 0
    · simp [hzero]
    · exact (Nat.log2_lt hzero).mpr small
  obtain ⟨k, hk⟩ := Nat.exists_eq_add_of_le hsize
  have hshift : 53 - (n.log2 + 1) = k := by omega
  have hlow : (((n.log2 + 1 : Nat) : Int) - 53 - 2).toNat = 0 := by omega
  have hhigh : (2 - (((n.log2 + 1 : Nat) : Int) - 53)).toNat = 2 + k := by omega
  have hvalue : 4 * (n * 2 ^ k) = n * 2 ^ (2 + k) := by ring
  simp only [Dyadic.ofNat, if_pos hsize, Dyadic.interval, hshift, hlow, hhigh, Nat.pow_eq, pow_zero,
    mul_one, hvalue]
  by_cases hnarrow : n * 2 ^ k = 0x10000000000000
  · exact ⟨1, k, true, le_rfl, by simp [hnarrow]⟩
  · exact ⟨0, k, n * 2 ^ k % 2 = 0, by decide, by simp [hnarrow]⟩

/-- In units of a power of ten, only a whole number itself is in its interval. -/
theorem holds_interval_ofNat (positive : 0 < n) (small : n < 2 ^ 53) :
    ((Dyadic.ofNat n).interval.inUnits u).holds j = true ↔ j * 10 ^ u = n := by
  obtain ⟨narrow, k, closed, hnarrow, hinterval⟩ := interval_ofNat small
  have hzero : (-(u : Int)).toNat = 0 := by omega
  have hwide : 4 ≤ 2 ^ (2 + k) := by
    rw [pow_add]
    exact Nat.le_mul_of_pos_right 4 (Nat.two_pow_pos k)
  have hpoint : j * (2 ^ (2 + k) * 10 ^ u) = j * 10 ^ u * 2 ^ (2 + k) := by ring
  simp only [hinterval, Interval.inUnits, Interval.holds, hzero, Int.toNat_natCast, Nat.pow_eq,
    pow_zero, mul_one, hpoint]
  generalize 2 ^ (2 + k) = width at hwide
  generalize j * 10 ^ u = m
  constructor
  · intro h
    have hclose : n * width ≤ m * width + 2 ∧ m * width ≤ n * width + 2 := by
      split at h <;> simp only [decide_eq_true_eq] at h <;> omega
    rcases Nat.lt_trichotomy m n with hlt | heq | hgt
    · have hnext : (m + 1) * width ≤ n * width := Nat.mul_le_mul_right width hlt
      rw [Nat.add_mul] at hnext
      omega
    · exact heq
    · have hnext : (n + 1) * width ≤ m * width := Nat.mul_le_mul_right width hgt
      rw [Nat.add_mul] at hnext
      omega
  · rintro rfl
    have hfar : 4 ≤ m * width := hwide.trans (Nat.le_mul_of_pos_left width positive)
    split <;> simp only [decide_eq_true_eq] <;> omega

/-- In units of a power of ten, a whole number is next to itself if it is a multiple of the unit,
and next to none else. -/
theorem nearest?_interval_ofNat (positive : 0 < n) (small : n < 2 ^ 53) (tie : Tie) :
    ((Dyadic.ofNat n).interval.inUnits u).nearest? tie =
      if 10 ^ u ∣ n then some (n / 10 ^ u) else none := by
  have hbelow : ((Dyadic.ofNat n).interval.inUnits u).value /
      ((Dyadic.ofNat n).interval.inUnits u).denominator = n / 10 ^ u := by
    obtain ⟨narrow, k, closed, -, hinterval⟩ := interval_ofNat small
    have hzero : (-(u : Int)).toNat = 0 := by omega
    simp only [hinterval, Interval.inUnits, hzero, Int.toNat_natCast, Nat.pow_eq, pow_zero, mul_one]
    rw [Nat.mul_comm n, Nat.mul_div_mul_left _ _ (Nat.two_pow_pos _)]
  have habove : ((Dyadic.ofNat n).interval.inUnits u).holds (n / 10 ^ u + 1) = false := by
    rw [← Bool.not_eq_true, holds_interval_ofNat positive small, Nat.add_mul, Nat.one_mul]
    exact (Nat.lt_div_mul_add (Nat.pow_pos (by decide : 0 < 10))).ne'
  have hholds : ((Dyadic.ofNat n).interval.inUnits u).holds (n / 10 ^ u) = true ↔ 10 ^ u ∣ n := by
    rw [holds_interval_ofNat positive small]
    exact (Nat.dvd_iff_div_mul_eq _ _).symm
  simp only [Interval.nearest?, hbelow, habove]
  by_cases hdvd : 10 ^ u ∣ n
  · rw [hholds.mpr hdvd, if_pos hdvd]
  · rw [Bool.eq_false_iff.mpr (mt hholds.mp hdvd), if_neg hdvd]

/-! ## The shortest of its decimals -/

/-- The decimal has the value of a whole number and no digits behind its point. -/
def IsWhole (d : Decimal) (n : Nat) : Prop :=
  ∃ u : Nat, d.exponent = u ∧ d.significand * 10 ^ u = n

/-- Without its final zeros a decimal is worth the same. -/
theorem IsWhole.trim {d : Decimal} (h : d.IsWhole n) (fuel : Nat) : (trim fuel d).IsWhole n := by
  induction fuel generalizing d with
  | zero => exact h
  | succ fuel ih =>
    rw [Decimal.trim]
    split
    case isFalse => exact h
    case isTrue hzero =>
      obtain ⟨u, hu, hvalue⟩ := h
      refine ih ⟨u + 1, by simp [hu], ?_⟩
      have hparts := Nat.div_mul_cancel (Nat.dvd_of_mod_eq_zero hzero.2)
      rw [← hvalue, pow_succ', ← Nat.mul_assoc, hparts]

/-- On the grid of a power of ten there is a whole number if it is a multiple of it. -/
theorem onGrid?_interval_ofNat (positive : 0 < n) (small : n < 2 ^ 53) (tie : Tie) {digits : Nat}
    (few : digits ≤ (Nat.toDigits 10 n).length) :
    let u := (Nat.toDigits 10 n).length - digits
    (Dyadic.ofNat n).interval.onGrid? tie digits =
      if 10 ^ u ∣ n then some (trim 18 ⟨n / 10 ^ u, u⟩) else none := by
  intro u
  have hmagnitude : (Dyadic.ofNat n).interval.magnitude = (Nat.toDigits 10 n).length := by
    obtain ⟨narrow, k, closed, -, hinterval⟩ := interval_ofNat small
    simp only [hinterval, Interval.magnitude, Nat.mul_div_cancel _ (Nat.two_pow_pos _)]
    exact if_pos (Nat.le_mul_of_pos_left _ positive)
  have hunit : ((Nat.toDigits 10 n).length : Int) - digits = (u : Int) := by omega
  rw [Interval.onGrid?, hmagnitude, hunit, nearest?_interval_ofNat positive small]
  split <;> rfl

/-- The shortest decimal that reads back as a whole number is the number. -/
theorem isWhole_shortest (positive : 0 < n) (small : n < 2 ^ 53) (tie : Tie) :
    ((Dyadic.ofNat n).shortest tie).IsWhole n := by
  have hmantissa : (Dyadic.ofNat n).mantissa ≠ 0 := by
    intro hzero
    obtain ⟨narrow, k, closed, -, hinterval⟩ := interval_ofNat small
    have hvalue := congrArg Interval.value hinterval
    simp only [Dyadic.interval, hzero, Nat.mul_zero, Nat.zero_mul] at hvalue
    exact (Nat.mul_pos positive (Nat.two_pow_pos _)).ne hvalue
  have hlength : (Nat.toDigits 10 n).length ≤ 17 :=
    (Nat.length_toDigits_le_iff (by decide) (by decide)).mpr (small.trans (by decide))
  have hdigits : (Nat.toDigits 10 n).length ∈ List.range' 1 17 := by
    have hsome := List.length_pos_iff.mpr (Nat.toDigits_ne_nil (b := 10) (n := n))
    rw [List.mem_range'_1]
    omega
  -- All digits are enough, so the search ends there at the latest.
  have hall := onGrid?_interval_ofNat positive small tie (Nat.le_refl _)
  simp only [Nat.sub_self, pow_zero, one_dvd, if_true] at hall
  have hfound : ((List.range' 1 17).findSome?
      ((Dyadic.ofNat n).interval.onGrid? tie)).isSome := by
    rw [List.findSome?_isSome_iff]
    exact ⟨_, hdigits, by rw [hall]; rfl⟩
  obtain ⟨d, hd⟩ := Option.isSome_iff_exists.mp hfound
  rw [Dyadic.shortest, if_neg hmantissa, hd, Option.getD_some]
  obtain ⟨front, digits, back, hparts, hgrid, hnone⟩ := List.findSome?_eq_some_iff.mp hd
  have hfew : digits ≤ (Nat.toDigits 10 n).length := by
    have hsorted : (front ++ digits :: back).Pairwise (· < ·) := hparts ▸ List.pairwise_lt_range'
    rw [hparts] at hdigits
    rcases List.mem_append.mp hdigits with hfront | hrest
    · simp [hnone _ hfront] at hall
    · rcases List.mem_cons.mp hrest with heq | hback
      · exact heq.ge
      · exact ((List.pairwise_cons.mp (List.pairwise_append.mp hsorted).2.1).1 _ hback).le
  rw [onGrid?_interval_ofNat positive small tie hfew] at hgrid
  obtain ⟨hdvd, hsame⟩ := Option.ite_none_right_eq_some.mp hgrid
  rw [← Option.some.inj hsame]
  exact IsWhole.trim ⟨_, rfl, Nat.div_mul_cancel hdvd⟩ 18

/-! ## Its text -/

/-- Digits and zeros behind them write the digits times a power of ten. -/
theorem toDigits_mul_pow (positive : 0 < n) (u : Nat) :
    Nat.toDigits 10 (n * 10 ^ u) = Nat.toDigits 10 n ++ List.replicate u '0' := by
  induction u with
  | zero => simp
  | succ u ih =>
    have hpositive : 0 < n * 10 ^ u := Nat.mul_pos positive (Nat.pow_pos (by decide))
    have hparts : n * 10 ^ (u + 1) = 10 * (n * 10 ^ u) + 0 := by ring
    rw [hparts, ← Nat.toDigits_append_toDigits (by decide) hpositive (by decide), ih,
      List.replicate_succ', List.append_assoc]
    rfl

/-- A decimal that is whole is written as the whole number. -/
theorem IsWhole.decimal_plain {d : Decimal} (h : d.IsWhole n) :
    Layout.plain.decimal d = toString n := by
  obtain ⟨u, hu, rfl⟩ := h
  rw [Layout.decimal]
  by_cases hzero : d.significand = 0
  · rw [if_pos hzero, hzero, Nat.zero_mul]
    rfl
  · have hlength : 0 < (Nat.toDigits 10 d.significand).length :=
      List.length_pos_iff.mpr Nat.toDigits_ne_nil
    have hplain (point : Int) : Layout.plain.isPositional point = true := rfl
    have hpoint : ¬((Nat.toDigits 10 d.significand).length + u : Int) ≤ 0 := by omega
    have hzeros : ((Nat.toDigits 10 d.significand).length + u : Int).toNat -
        (Nat.toDigits 10 d.significand).length = u := by omega
    rw [if_neg hzero, hu]
    dsimp only
    rw [if_pos (hplain _), positional, if_neg hpoint, if_pos (by omega), hzeros,
      ← toDigits_mul_pow (Nat.pos_of_ne_zero hzero), Nat.toString_eq_ofList_toDigits]
    exact String.append_empty

/-- Up to 2^53 a whole number is written as it is. -/
theorem whole_plain (small : n ≤ 2 ^ 53) : Layout.plain.whole n = toString n := by
  rcases Nat.eq_zero_or_pos n with rfl | hpositive
  · rfl
  · rcases Nat.lt_or_eq_of_le small with hlt | rfl
    · exact (isWhole_shortest hpositive hlt _).decimal_plain
    · decide +kernel

/-- The next whole number after 2^53 is next to the same double. -/
theorem whole_eq_next (layout : Layout) : layout.whole (2 ^ 53) = layout.whole (2 ^ 53 + 1) := by
  have hdouble : Dyadic.ofNat (2 ^ 53) = Dyadic.ofNat (2 ^ 53 + 1) := rfl
  rw [Layout.whole, Layout.whole, hdouble]

end HealthPanel.Decimal
