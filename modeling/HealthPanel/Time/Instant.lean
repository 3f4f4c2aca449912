import HealthPanel.Time.Date

/-!
# Instants and their timestamps

An instant is a second counted from the start of 1970 and the nanoseconds since then. A leap
second is counted as a second billion of nanoseconds in the last second of a minute. The
timestamp of an instant is its date and time of day in UTC, with as many groups of three
decimal places as the nanoseconds need.
-/

namespace HealthPanel

/-- A second of the years from -262143 to 262142, and nanoseconds within it. -/
structure Instant where
  second : Int
  nanosecond : Nat
  deriving DecidableEq

namespace Instant

/-- The first second that has an instant. -/
def firstSecond : Int := -8334601228800

/-- The last second that has an instant. -/
def lastSecond : Int := 8210266876799

/-- Whether the numbers denote an instant. -/
def IsValid (second : Int) (nanosecond : Nat) : Prop :=
  firstSecond ≤ second ∧ second ≤ lastSecond ∧
    (nanosecond < 1_000_000_000 ∨ nanosecond < 2 * 1_000_000_000 ∧ second % 60 = 59)

instance (second : Int) (nanosecond : Nat) : Decidable (IsValid second nanosecond) := by
  unfold IsValid; infer_instance

/-- The instant that the numbers denote, if they denote one. -/
def ofSecond? (second : Int) (nanosecond : Nat) : Option Instant :=
  if IsValid second nanosecond then some ⟨second, nanosecond⟩ else none

/-- A number in at least `width` digits. -/
def padded (width n : Nat) : String :=
  let digits := Nat.toDigits 10 n
  String.ofList (List.replicate (width - digits.length) '0' ++ digits)

/-- A year in four digits, or with a sign where it has more or is negative. -/
def yearText (year : Int) : String :=
  if 0 ≤ year ∧ year ≤ 9999 then padded 4 year.toNat
  else (if year < 0 then "-" else "+") ++ padded 4 year.natAbs

/-- The decimal places of a second. -/
def fractionText (nanosecond : Nat) : String :=
  if nanosecond = 0 then ""
  else if nanosecond % 1_000_000 = 0 then "." ++ padded 3 (nanosecond / 1_000_000)
  else if nanosecond % 1000 = 0 then "." ++ padded 6 (nanosecond / 1000)
  else "." ++ padded 9 nanosecond

/-- The timestamp of an instant. -/
def timestamp (instant : Instant) : String :=
  let date := Date.ofDays (instant.second / 86400)
  let second := (instant.second % 86400).toNat
  let leap := instant.nanosecond / 1_000_000_000
  yearText date.year ++ "-" ++ padded 2 date.month ++ "-" ++ padded 2 date.day ++ "T"
    ++ padded 2 (second / 3600) ++ ":" ++ padded 2 (second / 60 % 60) ++ ":"
    ++ padded 2 (second % 60 + leap) ++ fractionText (instant.nanosecond % 1_000_000_000) ++ "Z"

end Instant

end HealthPanel
