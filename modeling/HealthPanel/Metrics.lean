import HealthPanel.Decimal.Layout
import HealthPanel.Health.Status
import HealthPanel.Text.Fnv
import HealthPanel.Text.Utf8
import HealthPanel.Time.Span

/-!
# Metrics of the probes

A counter for each outcome and a histogram of the times that probes took. Counters are found by the
hash of their outcome alone, so that two outcomes with one hash share the counter of the first. Both
are shown in a text of two families: the buckets, sum and count of the histogram, and then one line
for each counter, sorted by the outcome that made it. A number is shown as the double next to it.
-/

namespace HealthPanel

/-- The times of the probes that resolved. -/
structure Histogram where
  /-- For each bound, the number of times that are at most the bound. -/
  buckets : List Nat
  sum : Float
  count : Nat
  deriving DecidableEq

namespace Histogram

/-- The bounds of the buckets, in nanoseconds. -/
def bounds : List Nat :=
  [5, 10, 25, 50, 100, 250, 500, 1000, 2500, 5000, 10000].map (· * 1_000_000)

/-- A histogram of no times. -/
def empty : Histogram :=
  { buckets := bounds.map fun _ => 0, sum := 0, count := 0 }

/-- Adds one time. -/
def observe (histogram : Histogram) (span : Span) : Histogram :=
  { buckets := List.zipWith
      (fun bound n => if span.inNanoseconds ≤ bound then n + 1 else n) bounds histogram.buckets
    sum := histogram.sum + span.toFloat
    count := histogram.count + 1 }

/-- The sum of all times in seconds, as text. -/
def sumText (histogram : Histogram) : String :=
  Decimal.Layout.plain.render histogram.sum

end Histogram

/-- What has been recorded about probes. -/
structure Metrics where
  /-- The counters, each with the outcome that made it, sorted by outcome. A counter has 64 bits;
  what is kept of it here is all that was added to it. -/
  checks : List (String × Nat)
  times : Histogram
  deriving DecidableEq

namespace Metrics

/-- The outcome of a probe that was given up before it resolved. -/
def cancelled : String := "cancelled"

/-- Nothing recorded. -/
def empty : Metrics :=
  { checks := [], times := .empty }

/-- What the counter of an outcome is found by. -/
def key (outcome : String) : UInt64 :=
  Text.fnv1a (Utf8.encode outcome)

/-- Puts a counter among counters that are sorted by outcome. -/
def insert (check : String × Nat) : List (String × Nat) → List (String × Nat)
  | [] => [check]
  | other :: rest =>
    if check.1 < other.1 then check :: other :: rest else other :: insert check rest

/-- Adds to the counter of an outcome. If there is none yet, it starts from zero. -/
def add (outcome : String) (amount : Nat) (checks : List (String × Nat)) : List (String × Nat) :=
  if checks.any fun check => key check.1 = key outcome then
    checks.map fun check => if key check.1 = key outcome then (check.1, check.2 + amount) else check
  else insert (outcome, amount) checks

/-- Records a probe that resolved. -/
def record (metrics : Metrics) (status : Status) (span : Span) : Metrics :=
  { checks := add status.label 1 metrics.checks
    times := metrics.times.observe span }

/-- Records a probe that was given up. -/
def recordCancelled (metrics : Metrics) : Metrics :=
  { metrics with checks := add cancelled 1 metrics.checks }

/-- How much was added to the counter of an outcome. -/
def count (metrics : Metrics) (outcome : String) : Nat :=
  (metrics.checks.find? fun check => key check.1 = key outcome).elim 0 Prod.snd

/-- Reads the counter of an outcome. A counter that was not there before is shown from then on. -/
def read (metrics : Metrics) (outcome : String) : UInt64 × Metrics :=
  (.ofNat (metrics.count outcome), { metrics with checks := add outcome 0 metrics.checks })

/-- A number of 64 bits as text. -/
def numberText (n : Nat) : String :=
  Decimal.Layout.plain.whole (n % UInt64.size)

/-- A character of a label's value as it stands between the quotes. -/
def escapeLabel (c : Char) : List Char :=
  match c with
  | '\\' => ['\\', '\\']
  | '"' => ['\\', '"']
  | '\n' => ['\\', 'n']
  | c => [c]

/-- One sample of a series: its name, its label, and its value. -/
def sample (name label value number : String) : String :=
  name ++ "\x7b" ++ label ++ "=\"" ++ String.ofList (value.toList.flatMap escapeLabel) ++ "\"\x7d "
    ++ number

/-- The two lines above the samples of a family. -/
def header (name help kind : String) : List String :=
  ["# HELP " ++ name ++ " " ++ help, "# TYPE " ++ name ++ " " ++ kind]

/-- The name of the histogram. -/
def timesName : String := "status_probe_check_duration_seconds"

/-- The name of the counters. -/
def checksName : String := "status_probe_checks_total"

/-- A bound in seconds, as text. -/
def boundText (bound : Nat) : String :=
  Span.inUnit (bound / 1_000_000_000) (bound % 1_000_000_000) 9 ""

/-- The lines of the histogram. -/
def timesLines (times : Histogram) : List String :=
  header timesName "Time from activation until the probe resolved" "histogram"
    ++ List.zipWith
        (fun bound n => sample (timesName ++ "_bucket") "le" (boundText bound) (numberText n))
        Histogram.bounds times.buckets
    ++ [sample (timesName ++ "_bucket") "le" "+Inf" (numberText times.count),
        timesName ++ "_sum " ++ times.sumText,
        timesName ++ "_count " ++ numberText times.count]

/-- The lines of the counters. There are none before the first outcome. -/
def checksLines (checks : List (String × Nat)) : List String :=
  if checks = [] then []
  else header checksName "Health probes by outcome" "counter"
    ++ checks.map fun (outcome, n) => sample checksName "outcome" outcome (numberText n)

/-- Everything recorded, as text. -/
def exposition (metrics : Metrics) : String :=
  String.join ((timesLines metrics.times ++ checksLines metrics.checks).map (· ++ "\n"))

end Metrics

end HealthPanel
