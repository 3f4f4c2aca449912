import HealthPanel.Proofs.Text.Digits
import HealthPanel.Proofs.Time.Calendar
import HealthPanel.Time.Instant

/-!
# Timestamps read back

A timestamp is a date of the calendar and a time of day, which can be read without knowing how they
were found. A year has four digits, or a sign and as many as it needs, and a leap second is the
second 60 of its minute. What is read from the timestamp of an instant denotes that instant, so no
two instants have the same timestamp.
-/

namespace HealthPanel

namespace Instant

variable {width n : Nat}

/-! ## Padded numbers -/

/-- A padded number is its digits behind zeros. -/
theorem toList_padded (width n : Nat) :
    (padded width n).toList =
      List.replicate (width - (Nat.toDigits 10 n).length) '0' ++ Nat.toDigits 10 n := by
  rw [padded, String.toList_ofList]

/-- Nothing but digits stands in a padded number. -/
theorem isDigit_of_mem_padded (width n : Nat) : ∀ c ∈ (padded width n).toList, c.isDigit := by
  intro c hc
  rw [toList_padded, List.mem_append] at hc
  rcases hc with hzero | hdigit
  · rw [List.eq_of_mem_replicate hzero]
    rfl
  · exact Nat.isDigit_of_mem_toDigits (by decide) (by decide) hdigit

/-- The zeros before a number do not change it. -/
theorem ofDigitChars_padded (width n : Nat) :
    Nat.ofDigitChars 10 (padded width n).toList 0 = n := by
  rw [toList_padded, Nat.ofDigitChars_append, Nat.ofDigitChars_replicate_zero, Nat.mul_zero,
    Nat.ofDigitChars_ten_toDigits]

/-- A padded number is as wide as it has to be. -/
theorem le_length_padded (width n : Nat) : width ≤ (padded width n).toList.length := by
  rw [toList_padded, List.length_append, List.length_replicate]
  omega

/-- A number that fits the width takes just that. -/
theorem length_padded (hpos : 0 < width) (h : n < 10 ^ width) :
    (padded width n).toList.length = width := by
  have hlength := (Nat.length_toDigits_le_iff (by decide) hpos).mpr h
  rw [toList_padded, List.length_append, List.length_replicate]
  omega

end Instant

/-- A date and a time of day in UTC. The second 60 of a minute is a leap second. -/
structure DateTime where
  date : Date
  hour : Nat
  minute : Nat
  second : Nat
  nanosecond : Nat
  deriving DecidableEq

namespace DateTime

open Instant (padded yearText fractionText isDigit_of_mem_padded ofDigitChars_padded
  le_length_padded length_padded)

/-! ## What a date with a time of day denotes -/

/-- Whether the calendar has the date, and the day the time. -/
def IsValid (time : DateTime) : Prop :=
  time.date.IsValid ∧ time.hour < 24 ∧ time.minute < 60 ∧ time.second ≤ 60 ∧
    time.nanosecond < 1_000_000_000

instance : DecidablePred IsValid :=
  fun time => inferInstanceAs (Decidable (time.date.IsValid ∧ time.hour < 24 ∧ time.minute < 60 ∧
    time.second ≤ 60 ∧ time.nanosecond < 1_000_000_000))

/-- The instant of a time of day on its date. A leap second goes on with the nanoseconds of the
second before it. -/
def instant (time : DateTime) : Instant :=
  { second := time.date.dayNumber * 86400
      + (time.hour * 3600 + time.minute * 60 + min time.second 59)
    nanosecond := (time.second - 59) * 1_000_000_000 + time.nanosecond }

/-! ## Reading -/

/-- Reads a number of as many digits as are asked for, and what stands behind it. -/
def readNumber? (width : Nat) (chars : List Char) : Option (Nat × List Char) :=
  if chars.length < width then none
  else (Text.absorbDigits? 0 (chars.take width)).map fun n => (n, chars.drop width)

/-- Reads a number behind a mark. -/
def readBehind? (mark : Char) (width : Nat) : List Char → Option (Nat × List Char)
  | [] => none
  | c :: chars => if c = mark then readNumber? width chars else none

/-- How many digits a text starts with. -/
def leadingDigits (chars : List Char) : Nat :=
  (chars.takeWhile Char.isDigit).length

/-- Reads a number of at least four digits. -/
def readLong? (chars : List Char) : Option (Nat × List Char) :=
  readNumber? (max 4 (leadingDigits chars)) chars

/-- Reads a year: four digits, or a sign and at least four digits. -/
def readYear? : List Char → Option (Int × List Char)
  | '+' :: chars => (readLong? chars).map fun read => (read.1, read.2)
  | '-' :: chars => (readLong? chars).map fun read => (-read.1, read.2)
  | chars => (readNumber? 4 chars).map fun read => (read.1, read.2)

/-- Reads the decimal places of a second, of which there are at most nine, as nanoseconds. -/
def readFraction? : List Char → Option (Nat × List Char)
  | '.' :: chars =>
    let places := leadingDigits chars
    if 1 ≤ places ∧ places ≤ 9 then
      (readNumber? places chars).map fun read => (read.1 * 10 ^ (9 - places), read.2)
    else none
  | chars => some (0, chars)

/-- Reads a date with a time of day in UTC: a `T` stands between the two, and a `Z` behind them. -/
def ofText? (text : String) : Option DateTime := do
  let (year, chars) ← readYear? text.toList
  let (month, chars) ← readBehind? '-' 2 chars
  let (day, chars) ← readBehind? '-' 2 chars
  let (hour, chars) ← readBehind? 'T' 2 chars
  let (minute, chars) ← readBehind? ':' 2 chars
  let (second, chars) ← readBehind? ':' 2 chars
  let (nanosecond, chars) ← readFraction? chars
  let time : DateTime := ⟨⟨year, month, day⟩, hour, minute, second, nanosecond⟩
  if chars = ['Z'] ∧ time.IsValid then some time else none

/-- The instant that a text denotes as a date with a time of day. -/
def instant? (text : String) : Option Instant :=
  (ofText? text).map instant

/-! ## Numbers read back -/

section

variable {width n : Nat} {rest : List Char} {c : Char}

/-- Digits are read as the number that they write. -/
theorem readNumber?_digits {digits : List Char} (all : ∀ c ∈ digits, c.isDigit)
    (rest : List Char) :
    readNumber? digits.length (digits ++ rest) = some (Nat.ofDigitChars 10 digits 0, rest) := by
  have hlength : ¬(digits ++ rest).length < digits.length := by simp
  rw [readNumber?, if_neg hlength, List.take_left, List.drop_left,
    Text.absorbDigits?_of_isDigit all]
  rfl

/-- A padded number that is not too wide is read. -/
theorem readNumber?_padded (hpos : 0 < width) (h : n < 10 ^ width) :
    readNumber? width ((padded width n).toList ++ rest) = some (n, rest) := by
  have hread := readNumber?_digits (isDigit_of_mem_padded width n) rest
  rwa [length_padded hpos h, ofDigitChars_padded] at hread

/-- A padded number behind a mark is read. -/
theorem readBehind?_padded (mark : Char) (hpos : 0 < width) (h : n < 10 ^ width) :
    readBehind? mark width (mark :: ((padded width n).toList ++ rest)) = some (n, rest) := by
  rw [readBehind?, if_pos rfl, readNumber?_padded hpos h]

/-- The digits of a padded number end with it. -/
theorem leadingDigits_padded (hc : ¬c.isDigit) :
    leadingDigits ((padded width n).toList ++ c :: rest) = (padded width n).toList.length := by
  rw [leadingDigits, List.takeWhile_append_of_pos (isDigit_of_mem_padded width n),
    List.takeWhile_cons_of_neg hc, List.append_nil]

/-- A number of more than four digits is read to its end. -/
theorem readLong?_padded (hc : ¬c.isDigit) :
    readLong? ((padded 4 n).toList ++ c :: rest) = some (n, c :: rest) := by
  have hread := readNumber?_digits (isDigit_of_mem_padded 4 n) (c :: rest)
  rw [readLong?, leadingDigits_padded hc, Nat.max_eq_right (le_length_padded 4 n), hread,
    ofDigitChars_padded]

/-- A year of four digits starts with no sign. -/
theorem readYear?_padded (h : n < 10 ^ 4) :
    readYear? ((padded 4 n).toList ++ rest) = some ((n : Int), rest) := by
  have hunsigned (sign : Char) (hsign : ¬sign.isDigit) (others : List Char) :
      (padded 4 n).toList ++ rest ≠ sign :: others := by
    intro hcons
    have hlength := length_padded (by decide) h
    have hhead : ((padded 4 n).toList ++ rest).head? = some sign := by
      rw [hcons]
      rfl
    rw [List.head?_append_of_ne_nil _ (List.ne_nil_of_length_pos (by omega))] at hhead
    exact hsign (isDigit_of_mem_padded 4 n sign (List.mem_of_head? hhead))
  rw [readYear?.eq_3 _ (hunsigned '+' (by decide)) (hunsigned '-' (by decide)),
    readNumber?_padded (by decide) h]
  rfl

/-- A year is read up to the mark behind it. -/
theorem readYear?_yearText (year : Int) (hc : ¬c.isDigit) :
    readYear? ((yearText year).toList ++ c :: rest) = some (year, c :: rest) := by
  have hsigned (sign : String) (n : Nat) : (sign ++ padded 4 n).toList ++ c :: rest =
      sign.toList ++ ((padded 4 n).toList ++ c :: rest) := by
    rw [String.toList_append, List.append_assoc]
  rw [yearText]
  split
  case isTrue h =>
    rw [readYear?_padded (by omega), Int.toNat_of_nonneg h.1]
  case isFalse h =>
    rw [hsigned]
    split
    case isTrue hneg =>
      have habs : -(year.natAbs : Int) = year := by omega
      have hminus : "-".toList = ['-'] := rfl
      rw [hminus, List.singleton_append, readYear?, readLong?_padded hc, Option.map_some, habs]
    case isFalse hnonneg =>
      have habs : (year.natAbs : Int) = year := by omega
      have hplus : "+".toList = ['+'] := rfl
      rw [hplus, List.singleton_append, readYear?, readLong?_padded hc, Option.map_some, habs]

/-- Decimal places are read as nanoseconds. -/
theorem readFraction?_padded (hpos : 0 < width) (hle : width ≤ 9) (h : n < 10 ^ width)
    (hc : ¬c.isDigit) :
    readFraction? (("." ++ padded width n).toList ++ c :: rest) =
      some (n * 10 ^ (9 - width), c :: rest) := by
  have hpoint : ".".toList = ['.'] := rfl
  rw [String.toList_append, List.append_assoc, hpoint, List.singleton_append, readFraction?]
  simp only [leadingDigits_padded hc, length_padded hpos h]
  rw [if_pos ⟨hpos, hle⟩, readNumber?_padded hpos h, Option.map_some]

/-- The places of a second, where zeros at the end are left out by threes, are read as the
nanoseconds that they were written for. -/
theorem readFraction?_fractionText (h : n < 1_000_000_000) :
    readFraction? ((fractionText n).toList ++ ['Z']) = some (n, ['Z']) := by
  rw [fractionText]
  split
  case isTrue hzero =>
    rw [hzero]
    rfl
  case isFalse =>
    split
    case isTrue hmilli =>
      have hplaces : n / 1_000_000 * 10 ^ (9 - 3) = n := by omega
      rw [readFraction?_padded (by decide) (by decide) (by omega) (by decide), hplaces]
    case isFalse =>
      split
      case isTrue hmicro =>
        have hplaces : n / 1000 * 10 ^ (9 - 6) = n := by omega
        rw [readFraction?_padded (by decide) (by decide) (by omega) (by decide), hplaces]
      case isFalse =>
        have hplaces : n * 10 ^ (9 - 9) = n := by omega
        rw [readFraction?_padded (by decide) (by decide) (by omega) (by decide), hplaces]

end

/-! ## Timestamps read back -/

/-- The timestamp of a date with a time of day. -/
def text (time : DateTime) : String :=
  yearText time.date.year ++ "-" ++ padded 2 time.date.month ++ "-" ++ padded 2 time.date.day
    ++ "T" ++ padded 2 time.hour ++ ":" ++ padded 2 time.minute ++ ":" ++ padded 2 time.second
    ++ fractionText time.nanosecond ++ "Z"

/-- A date with a time of day is read back from its timestamp. -/
theorem ofText?_text {time : DateTime} (h : time.IsValid) : ofText? time.text = some time := by
  have hchars : time.text.toList = (yearText time.date.year).toList ++
      '-' :: ((padded 2 time.date.month).toList ++
        '-' :: ((padded 2 time.date.day).toList ++
          'T' :: ((padded 2 time.hour).toList ++
            ':' :: ((padded 2 time.minute).toList ++
              ':' :: ((padded 2 time.second).toList ++
                ((fractionText time.nanosecond).toList ++ ['Z'])))))) := by
    simp [text]
  have htwo (mark : Char) {n : Nat} (hlt : n < 100) (rest : List Char) :
      readBehind? mark 2 (mark :: ((padded 2 n).toList ++ rest)) = some (n, rest) :=
    readBehind?_padded mark (by decide) hlt
  obtain ⟨⟨-, hmonth, -, hday⟩, hhour, hminute, hsecond, hnanosecond⟩ := id h
  have hlength := Date.monthLength_le time.date.year time.date.month
  have hmonths : time.date.month < 100 := by omega
  have hdays : time.date.day < 100 := by omega
  have hhours : time.hour < 100 := by omega
  have hminutes : time.minute < 100 := by omega
  have hseconds : time.second < 100 := by omega
  simp only [ofText?, hchars, readYear?_yearText _ (by decide : ¬ '-'.isDigit), htwo _ hmonths,
    htwo _ hdays, htwo _ hhours, htwo _ hminutes, htwo _ hseconds,
    readFraction?_fractionText hnanosecond, Option.bind_eq_bind, Option.bind_some]
  exact if_pos ⟨trivial, h⟩

/-- The date and the time of day of an instant. -/
def ofInstant (time : Instant) : DateTime :=
  let second := (time.second % 86400).toNat
  { date := .ofDays (time.second / 86400)
    hour := second / 3600
    minute := second / 60 % 60
    second := second % 60 + time.nanosecond / 1_000_000_000
    nanosecond := time.nanosecond % 1_000_000_000 }

/-- A timestamp is the text of its parts. -/
theorem timestamp_eq (time : Instant) : time.timestamp = (ofInstant time).text :=
  rfl

variable {time : Instant}

/-- The parts of a valid time are valid. -/
theorem isValid_ofInstant (valid : Instant.IsValid time.second time.nanosecond) :
    (ofInstant time).IsValid := by
  obtain ⟨-, -, hnanosecond⟩ := valid
  refine ⟨Date.isValid_ofDays _, ?_, ?_, ?_, ?_⟩ <;> dsimp only [ofInstant] <;> omega

/-- An instant has its date and time of day, also where it is in a leap second. -/
theorem instant_ofInstant (valid : Instant.IsValid time.second time.nanosecond) :
    (ofInstant time).instant = time := by
  obtain ⟨-, -, hnanosecond⟩ := valid
  obtain ⟨second, hsecond⟩ : ∃ second, second = (time.second % 86400).toNat := ⟨_, rfl⟩
  obtain ⟨leap, hleap⟩ : ∃ leap, leap = time.nanosecond / 1_000_000_000 := ⟨_, rfl⟩
  have hday : (second : Int) = time.second % 86400 := by omega
  have hlast : leap = 0 ∨ leap = 1 ∧ second % 60 = 59 := by omega
  have hover : second % 60 + leap - 59 = leap := by omega
  -- A billion times the quotient is more than `omega` can take apart.
  have hnanoseconds : leap * 1_000_000_000 + time.nanosecond % 1_000_000_000 = time.nanosecond := by
    rw [hleap]
    exact Nat.div_add_mod' _ _
  simp only [instant, ofInstant, Date.dayNumber_ofDays, ← hsecond, ← hleap, hover, hnanoseconds]
  congr 1
  omega

/-- The timestamp of an instant denotes the instant. -/
theorem instant?_timestamp (valid : Instant.IsValid time.second time.nanosecond) :
    instant? time.timestamp = some time := by
  rw [instant?, timestamp_eq, ofText?_text (isValid_ofInstant valid), Option.map_some,
    instant_ofInstant valid]

example : instant? "1990-12-31T23:59:60Z" = some ⟨662687999, 1_000_000_000⟩ := by
  decide +kernel

end DateTime

end HealthPanel
