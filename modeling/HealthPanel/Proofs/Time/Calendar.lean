import HealthPanel.Time.Date
import Mathlib.Algebra.BigOperators.Intervals
import Mathlib.Tactic.Linarith

/-!
# The days of the calendar

The number of a day is counted in the lengths of the years and months before it, and the rule of the
leap years is all that the calendar adds. The date of a day is a date of the calendar, and it has
the number of that day, also before 1970.
-/

namespace HealthPanel.Date

/-! ## The calendar -/

/-- Whether a year has a leap day. -/
def IsLeap (year : Int) : Prop :=
  4 ∣ year ∧ (100 ∣ year → 400 ∣ year)

instance : DecidablePred IsLeap :=
  fun year => inferInstanceAs (Decidable (4 ∣ year ∧ (100 ∣ year → 400 ∣ year)))

/-- The days of a month. -/
def monthLength (year : Int) (month : Nat) : Nat :=
  if month = 2 then (if IsLeap year then 29 else 28)
  else if month ∈ [4, 6, 9, 11] then 30 else 31

/-- The days of a year before a month. -/
def daysBeforeMonth (year : Int) (month : Nat) : Nat :=
  ∑ earlier ∈ Finset.Ico 1 month, monthLength year earlier

/-- The days of a year, which are those of its twelve months. -/
def yearLength (year : Int) : Nat :=
  daysBeforeMonth year 13

/-- The days from the start of 1970 to the start of a year: those of the years from 1970 on, or as
a negative number those of the years from 1969 back to the year. -/
def daysBeforeYear (year : Int) : Int :=
  ∑ n ∈ Finset.range (year - 1970).toNat, (yearLength (1970 + n) : Int)
    - ∑ n ∈ Finset.range (1970 - year).toNat, (yearLength (1969 - n) : Int)

/-- The number of the day that a date is, counted from the first of January 1970. -/
def dayNumber (date : Date) : Int :=
  daysBeforeYear date.year + daysBeforeMonth date.year date.month + (date.day - 1)

/-- Whether the calendar has a date. -/
def IsValid (date : Date) : Prop :=
  1 ≤ date.month ∧ date.month ≤ 12 ∧ 1 ≤ date.day ∧ date.day ≤ monthLength date.year date.month

instance : DecidablePred IsValid :=
  fun date => inferInstanceAs (Decidable (1 ≤ date.month ∧ date.month ≤ 12 ∧ 1 ≤ date.day ∧
    date.day ≤ monthLength date.year date.month))

variable {year : Int} {day : Nat}

/-! ## Leap days -/

/-- The leap days of a year. -/
def leapDays (year : Int) : Nat :=
  if IsLeap year then 1 else 0

/-- A year has at most one leap day. -/
theorem leapDays_le (year : Int) : leapDays year ≤ 1 := by
  rw [leapDays]
  split <;> decide

/-- A year has a leap day where the number of multiples of four up to it grows and that of the
hundreds does not, or that of the four hundreds grows as well. -/
theorem leapDays_eq (year : Int) :
    (leapDays year : Int) =
      year / 4 - (year - 1) / 4 - (year / 100 - (year - 1) / 100)
        + (year / 400 - (year - 1) / 400) := by
  rw [leapDays]
  split
  case isTrue h =>
    simp only [IsLeap] at h
    omega
  case isFalse h =>
    simp only [IsLeap] at h
    omega

/-- The leap days repeat after a cycle of 400 years. -/
theorem leapDays_add_cycles (cycles year : Int) :
    leapDays (cycles * 400 + year) = leapDays year := by
  have hshifted := leapDays_eq (cycles * 400 + year)
  have hyear := leapDays_eq year
  omega

/-! ## Months -/

/-- A month has at most 31 days. -/
theorem monthLength_le (year : Int) (month : Nat) : monthLength year month ≤ 31 := by
  rw [monthLength]
  split_ifs <;> decide

/-- The second month has the leap day. -/
theorem monthLength_two (year : Int) : monthLength year 2 = 28 + leapDays year := by
  rw [monthLength, if_pos rfl, leapDays]
  split <;> rfl

/-- From March on the lengths of the months follow a line. -/
theorem monthLength_add_three (year : Int) {month : Nat} (h : month < 10) :
    monthLength year (month + 3) + (153 * month + 2) / 5 = (153 * (month + 1) + 2) / 5 := by
  rw [monthLength, if_neg (by omega)]
  revert month
  decide

/-- Before the next month there are the days of this one as well. -/
theorem daysBeforeMonth_add_one (year : Int) {month : Nat} (h : 1 ≤ month) :
    daysBeforeMonth year (month + 1) = daysBeforeMonth year month + monthLength year month :=
  Finset.sum_Ico_succ_top h _

/-- There are no days before the first month. -/
theorem daysBeforeMonth_one (year : Int) : daysBeforeMonth year 1 = 0 :=
  rfl

/-- Before the second month there are the days of the first. -/
theorem daysBeforeMonth_two (year : Int) : daysBeforeMonth year 2 = 31 := by
  rw [daysBeforeMonth_add_one year le_rfl, daysBeforeMonth_one]
  rfl

/-- From March on, five months have 153 days. -/
theorem daysBeforeMonth_add_three (year : Int) {month : Nat} (h : month ≤ 10) :
    daysBeforeMonth year (month + 3) = 59 + leapDays year + (153 * month + 2) / 5 := by
  induction month with
  | zero =>
    rw [daysBeforeMonth_add_one year (by decide), daysBeforeMonth_two, monthLength_two]
    omega
  | succ month ih =>
    have hlength := monthLength_add_three year (Nat.lt_of_succ_le h)
    rw [Nat.add_right_comm, daysBeforeMonth_add_one year (by omega), ih (Nat.le_of_succ_le h)]
    omega

/-! ## Years -/

/-- A year has 365 days and its leap days. -/
theorem yearLength_eq (year : Int) : yearLength year = 365 + leapDays year := by
  rw [yearLength, daysBeforeMonth_add_three year (le_refl 10)]
  omega

/-- Of the two sums of days one is empty, and the other grows or shrinks by the days of the year. -/
theorem daysBeforeYear_add_one (year : Int) :
    daysBeforeYear (year + 1) = daysBeforeYear year + yearLength year := by
  rw [daysBeforeYear, daysBeforeYear]
  rcases lt_or_ge year 1970 with h | h
  · have hyears : (1970 - year).toNat = (1970 - (year + 1)).toNat + 1 := by omega
    have hyear : (1969 : Int) - (1970 - (year + 1)).toNat = year := by omega
    have hnone : (year + 1 - 1970).toNat = 0 := by omega
    have hnone' : (year - 1970).toNat = 0 := by omega
    rw [hyears, Finset.sum_range_succ, hyear, hnone, hnone']
    omega
  · have hyears : (year + 1 - 1970).toNat = (year - 1970).toNat + 1 := by omega
    have hyear : (1970 : Int) + (year - 1970).toNat = year := by omega
    have hnone : (1970 - (year + 1)).toNat = 0 := by omega
    have hnone' : (1970 - year).toNat = 0 := by omega
    rw [hyears, Finset.sum_range_succ, hyear, hnone, hnone']
    omega

/-- The days before a year are 365 for each year, and the leap days. -/
theorem daysBeforeYear_eq (year : Int) :
    daysBeforeYear year =
      365 * year + (year - 1) / 4 - (year - 1) / 100 + (year - 1) / 400 - 719527 := by
  -- Both sides are zero at 1970, and grow by the days of a year in one direction and shrink by them
  -- in the other.
  refine Int.inductionOn' year 1970 rfl (fun year _ ih => ?_) (fun year _ ih => ?_)
  · rw [daysBeforeYear_add_one, ih, yearLength_eq, Nat.cast_add, leapDays_eq]
    omega
  · have hstep := daysBeforeYear_add_one (year - 1)
    rw [sub_add_cancel, ih, yearLength_eq, Nat.cast_add, leapDays_eq] at hstep
    omega

/-! ## Days of a cycle -/

/-- A day of a cycle is taken apart into whole centuries, groups of four years and years. Only the
last year of a group may have a day more than the others, and in the last group of a century only
that of the last century has it. -/
theorem exists_ofCycleDay_eq (h : day < cycle) :
    ∃ century group year rest, ofCycleDay day = (century * 100 + group * 4 + year, rest) ∧
      day = century * 36524 + group * 1461 + year * 365 + rest ∧
      century < 4 ∧ group < 25 ∧ year < 4 ∧
      (rest < 365 ∨ rest = 365 ∧ year = 3 ∧ (group < 24 ∨ century = 3)) := by
  rw [cycle] at h
  obtain ⟨century, hcentury⟩ : ∃ century, century = min (day / 36524) 3 := ⟨_, rfl⟩
  obtain ⟨inCentury, hinCentury⟩ : ∃ rest, rest = day - century * 36524 := ⟨_, rfl⟩
  obtain ⟨group, hgroup⟩ : ∃ group, group = inCentury / 1461 := ⟨_, rfl⟩
  obtain ⟨inGroup, hinGroup⟩ : ∃ rest, rest = inCentury - group * 1461 := ⟨_, rfl⟩
  obtain ⟨year, hyear⟩ : ∃ year, year = min (inGroup / 365) 3 := ⟨_, rfl⟩
  obtain ⟨rest, hrest⟩ : ∃ rest, rest = inGroup - year * 365 := ⟨_, rfl⟩
  have hday : day = century * 36524 + inCentury := by omega
  have hcenturyEnd : inCentury < 36524 ∨ inCentury = 36524 ∧ century = 3 := by omega
  have hcenturyDay : inCentury = group * 1461 + inGroup := by omega
  have hgroupEnd : inGroup < 1460 ∨ inGroup = 1460 ∧ (group < 24 ∨ century = 3) := by omega
  have hgroupDay : inGroup = year * 365 + rest := by omega
  -- The sum only needs how the parts are nested, and not the quotients that they are.
  refine ⟨century, group, year, rest, ?_, by linarith only [hday, hcenturyDay, hgroupDay], ?_⟩
  · simp only [ofCycleDay, ← hcentury, ← hinCentury, ← hgroup, ← hinGroup, ← hyear, ← hrest]
  · omega

/-- The days of a cycle before the day are those of the years before its year, with their leap
days. -/
theorem ofCycleDay_lt {rest yearOfCycle : Nat} (h : day < cycle)
    (hparts : ofCycleDay day = (yearOfCycle, rest)) :
    yearOfCycle < 400 ∧ day + yearOfCycle / 100 = 365 * yearOfCycle + yearOfCycle / 4 + rest ∧
      rest < 365 + leapDays (yearOfCycle + 1) := by
  obtain ⟨century, group, inGroup, left, heq, hday, hcentury, hgroup, hinGroup, hleft⟩ :=
    exists_ofCycleDay_eq h
  rw [heq] at hparts
  cases hparts
  have hleap := leapDays_eq (((century * 100 + group * 4 + inGroup : Nat) : Int) + 1)
  refine ⟨by omega, by omega, by omega⟩

/-! ## Years from March -/

/-- The date of a day of a year that starts in March. -/
def ofMarch (year : Int) (day : Nat) : Date :=
  let marchMonth := (5 * day + 2) / 153
  let month := if marchMonth < 10 then marchMonth + 3 else marchMonth - 9
  { year := year + if month ≤ 2 then 1 else 0
    month := month
    day := day - (153 * marchMonth + 2) / 5 + 1 }

/-- From March to December the year is the one that March is in. -/
theorem ofMarch_of_lt (h : day < 306) :
    ofMarch year day =
      ⟨year, (5 * day + 2) / 153 + 3, day - (153 * ((5 * day + 2) / 153) + 2) / 5 + 1⟩ := by
  have hmonth : (5 * day + 2) / 153 < 10 := by omega
  have hlate : ¬(5 * day + 2) / 153 + 3 ≤ 2 := by omega
  simp only [ofMarch, if_pos hmonth, if_neg hlate, add_zero]

/-- The last two months are January and February of the next year. -/
theorem ofMarch_of_ge (h : 306 ≤ day) (hlt : day < 366) :
    ofMarch year day =
      if day < 337 then ⟨year + 1, 1, day - 306 + 1⟩ else ⟨year + 1, 2, day - 337 + 1⟩ := by
  split
  case isTrue hday =>
    have hmonth : (5 * day + 2) / 153 = 10 := by omega
    rw [ofMarch, hmonth]
    rfl
  case isFalse hday =>
    have hmonth : (5 * day + 2) / 153 = 11 := by omega
    rw [ofMarch, hmonth]
    rfl

/-- Each day of a year that is counted from March has a valid date. -/
theorem isValid_ofMarch (h : day < 365 + leapDays (year + 1)) : (ofMarch year day).IsValid := by
  have hleap := leapDays_le (year + 1)
  rcases Nat.lt_or_ge day 306 with hday | hday
  · have hlength := monthLength_add_three year (by omega : (5 * day + 2) / 153 < 10)
    rw [ofMarch_of_lt hday]
    refine ⟨?_, ?_, ?_, ?_⟩ <;> dsimp only <;> omega
  · have hjanuary : monthLength (year + 1) 1 = 31 := rfl
    have hfebruary := monthLength_two (year + 1)
    rw [ofMarch_of_ge hday (by omega)]
    split <;> refine ⟨?_, ?_, ?_, ?_⟩ <;> dsimp only <;> omega

/-- Before March there are 59 days of the year, or 60. -/
theorem dayNumber_ofMarch (h : day < 365 + leapDays (year + 1)) :
    (ofMarch year day).dayNumber = daysBeforeYear year + 59 + leapDays year + day := by
  have hleap := leapDays_le (year + 1)
  rcases Nat.lt_or_ge day 306 with hday | hday
  · rw [ofMarch_of_lt hday, dayNumber, daysBeforeMonth_add_three year (by omega)]
    dsimp only
    omega
  · have hyear := daysBeforeYear_add_one year
    rw [yearLength_eq] at hyear
    rw [ofMarch_of_ge hday (by omega)]
    split
    · rw [dayNumber, daysBeforeMonth_one, hyear]
      dsimp only
      omega
    · rw [dayNumber, daysBeforeMonth_two, hyear]
      dsimp only
      omega

/-! ## The date of a day -/

/-- The date of a day is found in the year from March that the day is in. -/
theorem exists_ofDays_eq (days : Int) :
    ∃ year day, ofDays days = ofMarch year day ∧ day < 365 + leapDays (year + 1) ∧
      days = daysBeforeYear year + 59 + leapDays year + day := by
  obtain ⟨cycles, hcycles⟩ : ∃ cycles, cycles = (days - epoch) / cycle := ⟨_, rfl⟩
  obtain ⟨dayOfCycle, hdayOfCycle⟩ : ∃ day, day = ((days - epoch) % cycle).toNat := ⟨_, rfl⟩
  obtain ⟨yearOfCycle, day, hparts⟩ : ∃ year day, ofCycleDay dayOfCycle = (year, day) :=
    ⟨_, _, rfl⟩
  have hdays : days = cycles * 146097 + dayOfCycle - 719468 := by
    simp only [epoch, cycle] at hcycles hdayOfCycle
    omega
  have hlt : dayOfCycle < cycle := by
    rw [hdayOfCycle, cycle]
    omega
  obtain ⟨hyear, hday, hrest⟩ := ofCycleDay_lt hlt hparts
  refine ⟨cycles * 400 + yearOfCycle, day, ?_, ?_, ?_⟩
  · simp only [ofDays, ← hcycles, ← hdayOfCycle, hparts]
    rfl
  · rw [add_assoc, leapDays_add_cycles]
    exact hrest
  · rw [leapDays_eq, daysBeforeYear_eq]
    omega

/-- The date of a day is a date of the calendar. -/
theorem isValid_ofDays (days : Int) : (ofDays days).IsValid := by
  obtain ⟨year, day, heq, hlt, -⟩ := exists_ofDays_eq days
  rw [heq]
  exact isValid_ofMarch hlt

/-- The date of a day has the number of that day. -/
theorem dayNumber_ofDays (days : Int) : (ofDays days).dayNumber = days := by
  obtain ⟨year, day, heq, hlt, hdays⟩ := exists_ofDays_eq days
  rw [heq, dayNumber_ofMarch hlt, ← hdays]

end HealthPanel.Date
