/-!
# Days of the proleptic Gregorian calendar

Days are counted from the first of January 1970. The calendar repeats after 400 years; within
such a cycle a year starts in March here, so that the leap day is its last day and the months
before it have a fixed pattern of lengths.
-/

namespace HealthPanel

/-- A day of the calendar. -/
structure Date where
  year : Int
  month : Nat
  day : Nat
  deriving DecidableEq

namespace Date

/-- The days of a cycle of 400 years. -/
def cycle : Nat := 146097

/-- The first day of March of the year 0, counted from 1970. -/
def epoch : Int := -719468

/-- A day of a year that starts in March: the number of the year within its cycle, and the number
of the day within the year. -/
def ofCycleDay (day : Nat) : Nat × Nat :=
  let century := min (day / 36524) 3
  let inCentury := day - century * 36524
  let leap := inCentury / 1461
  let inLeap := inCentury - leap * 1461
  let year := min (inLeap / 365) 3
  (century * 100 + leap * 4 + year, inLeap - year * 365)

/-- The date of a day counted from 1970. -/
def ofDays (days : Int) : Date :=
  let shifted := days - epoch
  let (yearOfCycle, dayOfYear) := ofCycleDay (shifted % cycle).toNat
  let marchMonth := (5 * dayOfYear + 2) / 153
  let month := if marchMonth < 10 then marchMonth + 3 else marchMonth - 9
  { year := shifted / cycle * 400 + yearOfCycle + if month ≤ 2 then 1 else 0
    month := month
    day := dayOfYear - (153 * marchMonth + 2) / 5 + 1 }

end Date

end HealthPanel
