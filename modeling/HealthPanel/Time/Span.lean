/-!
# Spans of time

A span is whole seconds and nanoseconds. Its text is in the largest unit of which it holds at
least one, with as many decimal places as it needs.
-/

namespace HealthPanel

/-- A span of time. -/
structure Span where
  seconds : Nat
  nanoseconds : Nat
  lt_second : nanoseconds < 1_000_000_000 := by omega
  deriving DecidableEq

namespace Span

/-- A whole number of seconds. -/
def ofSeconds (seconds : Nat) : Span :=
  ⟨seconds, 0, by decide⟩

/-- The span in nanoseconds. -/
def inNanoseconds (span : Span) : Nat :=
  span.seconds * 1_000_000_000 + span.nanoseconds

/-- The digits of a decimal fraction of the given width, final zeros left out. -/
def fractionDigits (fraction width : Nat) : List Char :=
  let digits := Nat.toDigits 10 fraction
  let padded := List.replicate (width - digits.length) '0' ++ digits
  (padded.reverse.dropWhile (· = '0')).reverse

/-- A whole number, a fraction of the given width, and a unit. -/
def inUnit (whole fraction width : Nat) (unit : String) : String :=
  let digits := fractionDigits fraction width
  toString whole ++ (if digits = [] then "" else "." ++ String.ofList digits) ++ unit

/-- The span in words. -/
def render (span : Span) : String :=
  let n := span.nanoseconds
  if 0 < span.seconds then inUnit span.seconds n 9 "s"
  else if 1_000_000 ≤ n then inUnit (n / 1_000_000) (n % 1_000_000) 6 "ms"
  else if 1000 ≤ n then inUnit (n / 1000) (n % 1000) 3 "µs"
  else inUnit n 0 0 "ns"

/-- The span in seconds, as a double. -/
def toFloat (span : Span) : Float :=
  span.seconds.toUInt64.toFloat + span.nanoseconds.toUInt64.toFloat / 1e9

end Span

end HealthPanel
