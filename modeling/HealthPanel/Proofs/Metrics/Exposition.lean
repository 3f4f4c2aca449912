import HealthPanel.Proofs.Decimal.Whole
import HealthPanel.Proofs.Metrics.Calls
import HealthPanel.Proofs.Text.Digits
import HealthPanel.Proofs.Text.Lines
import Mathlib.Data.List.Nodup

/-!
# Metrics read back from their text

Each line of the metrics is a comment or one sample. A label's value is escaped, so that it stands
on its line and ends at its quote whatever it holds, and it can be read back. A number up to 2^53 is
shown by its own digits. So the text of metrics tells their counters and the buckets and count of
their histogram, and hence what calls recorded.
-/

namespace HealthPanel

/-! ## Numbers stand on one line -/

/-- No digits written out have a line break among them. -/
theorem newline_notMem_positional (digits : List Char) (point : Int) (h : '\n' ∉ digits) :
    '\n' ∉ (Decimal.positional .plain digits point).toList := by
  have htake : '\n' ∉ digits.take point.toNat := fun hmem => h (List.mem_of_mem_take hmem)
  have hdrop : '\n' ∉ digits.drop point.toNat := fun hmem => h (List.mem_of_mem_drop hmem)
  rw [Decimal.positional]
  split
  · simp [h]
  · split
    · simp [h, Decimal.Layout.plain]
    · simp [htake, hdrop]

/-- A decimal stands on one line. -/
theorem newline_notMem_decimal (d : Decimal) :
    '\n' ∉ (Decimal.Layout.plain.decimal d).toList := by
  rw [Decimal.Layout.decimal]
  dsimp only
  split
  · decide
  · have hpositional (point : Int) : Decimal.Layout.plain.isPositional point = true := rfl
    rw [if_pos (hpositional _)]
    exact newline_notMem_positional _ _ (newline_notMem_toDigits _)

/-- The sum of the times stands on one line. -/
theorem newline_notMem_sumText (times : Histogram) : '\n' ∉ times.sumText.toList := by
  have hfinite (x : Float) :
      '\n' ∉ (if x.isInf then "inf" else Decimal.Layout.plain.magnitude x).toList := by
    split
    · decide
    · exact newline_notMem_decimal _
  rw [Histogram.sumText, Decimal.Layout.render]
  split
  · decide
  · dsimp only
    split
    · rw [String.toList_append, List.mem_append]
      exact not_or.mpr ⟨by decide, hfinite _⟩
    · exact hfinite _

namespace Metrics

/-- A number stands on one line. -/
theorem newline_notMem_numberText (n : Nat) : '\n' ∉ (numberText n).toList :=
  newline_notMem_decimal _

/-- A number up to 2^53 is shown by its own digits. -/
theorem numberText_of_le {n : Nat} (h : n ≤ 2 ^ 53) : numberText n = toString n := by
  have hsize : n < UInt64.size := h.trans_lt (by decide)
  rw [numberText, Nat.mod_eq_of_lt hsize, Decimal.whole_plain h]

/-! ## Samples read from lines -/

/-- What one line tells of a series: its name, its label if there is one, and its value as text. -/
structure Sample where
  name : String
  label : Option (String × String)
  number : String
  deriving DecidableEq

/-- Reads the value of a label up to its quote, and what stands behind the quote. -/
def readLabel? : List Char → Option (List Char × List Char)
  | [] => none
  | '"' :: rest => some ([], rest)
  | '\\' :: '\\' :: rest => (readLabel? rest).map fun read => ('\\' :: read.1, read.2)
  | '\\' :: '"' :: rest => (readLabel? rest).map fun read => ('"' :: read.1, read.2)
  | '\\' :: 'n' :: rest => (readLabel? rest).map fun read => ('\n' :: read.1, read.2)
  | '\\' :: _ => none
  | c :: rest => (readLabel? rest).map fun read => (c :: read.1, read.2)

/-- A character that can stand in the name of a series or of a label. -/
def isNameChar (c : Char) : Bool :=
  c.isAlpha || c == '_'

/-- Reads the sample on a line. There is none on a comment and on an empty line. -/
def Sample.ofLine? (line : String) : Option Sample :=
  let chars := line.toList
  let name := chars.takeWhile isNameChar
  match chars.dropWhile isNameChar with
  | ' ' :: number => some ⟨String.ofList name, none, String.ofList number⟩
  | '\x7b' :: chars =>
    match chars.dropWhile isNameChar with
    | '=' :: '"' :: quoted =>
      match readLabel? quoted with
      | some (value, '\x7d' :: ' ' :: number) =>
        some ⟨String.ofList name,
          some (String.ofList (chars.takeWhile isNameChar), String.ofList value),
          String.ofList number⟩
      | _ => none
    | _ => none
  | _ => none

/-- The samples in a text. -/
def samplesIn (text : String) : List Sample :=
  (linesOf text).filterMap Sample.ofLine?

/-- The number that decimal digits write. -/
def number? (digits : List Char) : Option Nat :=
  if digits = [] then none else Text.absorbDigits? 0 digits

/-- The bound of a bucket, in nanoseconds. -/
def bound? (seconds : String) : Option Nat :=
  let whole := seconds.toList.takeWhile (· ≠ '.')
  let fraction := seconds.toList.drop (whole.length + 1)
  number? (whole ++ fraction ++ List.replicate (9 - fraction.length) '0')

/-- The counter that a sample tells. -/
def Sample.counter? : Sample → Option (String × Nat)
  | ⟨name, some (label, outcome), number⟩ =>
    if name = checksName ∧ label = "outcome" then (number? number.toList).map fun n => (outcome, n)
    else none
  | _ => none

/-- The bucket that a sample tells, with its bound. The last bucket has none. -/
def Sample.bucket? : Sample → Option (Option Nat × Nat)
  | ⟨name, some (label, bound), number⟩ =>
    if name = timesName ++ "_bucket" ∧ label = "le" then do
      let bound ← if bound = "+Inf" then pure none else (bound? bound).map some
      return (bound, ← number? number.toList)
    else none
  | _ => none

/-- The number of times that a sample tells. -/
def Sample.count? (sample : Sample) : Option Nat :=
  if sample.name = timesName ++ "_count" then number? sample.number.toList else none

/-- The counters that a text tells. -/
def countersIn (text : String) : List (String × Nat) :=
  (samplesIn text).filterMap Sample.counter?

/-- The buckets that a text tells. -/
def bucketsIn (text : String) : List (Option Nat × Nat) :=
  (samplesIn text).filterMap Sample.bucket?

/-- The numbers of times that a text tells. There is one in the text of metrics. -/
def countsIn (text : String) : List Nat :=
  (samplesIn text).filterMap Sample.count?

variable {name label value number : String} {n : Nat}

/-! ## Lines read back -/

/-- An escaped value is read back up to the quote behind it. -/
theorem readLabel?_escapeLabel (value rest : List Char) :
    readLabel? (value.flatMap escapeLabel ++ '"' :: rest) = some (value, rest) := by
  induction value with
  | nil => rfl
  | cons c value ih =>
    rw [List.flatMap_cons, List.append_assoc, escapeLabel.eq_def]
    split
    case h_4 hbackslash hquote hnewline =>
      rw [List.singleton_append, readLabel?.eq_7]
      · rw [ih, Option.map_some]
      all_goals simp_all
    all_goals simp [readLabel?, ih]

/-- No line break stands in an escaped value. -/
theorem newline_notMem_escapeLabel (value : List Char) : '\n' ∉ value.flatMap escapeLabel := by
  simp only [List.mem_flatMap, not_exists, not_and]
  intro c _
  rw [escapeLabel.eq_def]
  split
  case h_4 hnewline => simpa [eq_comm] using hnewline
  all_goals decide

/-- A name that consists of the characters of names. -/
def IsName (name : String) : Prop :=
  ∀ c ∈ name.toList, isNameChar c

instance : DecidablePred IsName :=
  fun name => inferInstanceAs (Decidable (∀ c ∈ name.toList, isNameChar c))

/-- The name of the histogram is a name. -/
theorem isName_times : IsName timesName := by decide +kernel

/-- The name of the histogram with a suffix is a name. -/
theorem isName_times_append {suffix : String} (h : IsName suffix) :
    IsName (timesName ++ suffix) := by
  simp only [IsName, String.toList_append, List.forall_mem_append]
  exact ⟨isName_times, h⟩

/-- The name of the buckets is a name. -/
theorem isName_bucket : IsName (timesName ++ "_bucket") := isName_times_append (by decide)

/-- The name of the sum is a name. -/
theorem isName_sum : IsName (timesName ++ "_sum") := isName_times_append (by decide)

/-- The name of the count is a name. -/
theorem isName_count : IsName (timesName ++ "_count") := isName_times_append (by decide)

/-- The name of the counters is a name. -/
theorem isName_checks : IsName checksName := by decide +kernel

/-- The label of the buckets is a name. -/
theorem isName_le : IsName "le" := by decide

/-- The label of the counters is a name. -/
theorem isName_outcome : IsName "outcome" := by decide

/-- A name has no line break. -/
theorem IsName.newline_notMem (h : IsName name) : '\n' ∉ name.toList :=
  fun hmem => absurd (h _ hmem) (by decide)

/-- A name ends where a character comes that is in no name. -/
theorem IsName.span (h : IsName name) {c : Char} (rest : List Char) (outside : ¬isNameChar c) :
    (name.toList ++ c :: rest).takeWhile isNameChar = name.toList ∧
      (name.toList ++ c :: rest).dropWhile isNameChar = c :: rest := by
  rw [List.takeWhile_append_of_pos h, List.dropWhile_append_of_pos h]
  simp [outside]

/-- A sample is read back from its line. -/
theorem ofLine?_sample (hname : IsName name) (hlabel : IsName label) (value number : String) :
    Sample.ofLine? (sample name label value number) =
      some ⟨name, some (label, value), number⟩ := by
  have hline : (sample name label value number).toList =
      name.toList ++ '\x7b' :: (label.toList ++ '=' ::
        ('"' :: (value.toList.flatMap escapeLabel ++
          '"' :: ('\x7d' :: ' ' :: number.toList)))) := by
    simp [sample]
  have hbrace := hname.span (label.toList ++ '=' ::
    ('"' :: (value.toList.flatMap escapeLabel ++ '"' :: ('\x7d' :: ' ' :: number.toList))))
    (c := '\x7b') (by decide)
  have hequals := hlabel.span
    ('"' :: (value.toList.flatMap escapeLabel ++ '"' :: ('\x7d' :: ' ' :: number.toList)))
    (c := '=') (by decide)
  simp only [Sample.ofLine?, hline, hbrace, hequals, readLabel?_escapeLabel, String.ofList_toList]

/-- A value without a label is read back from its line. -/
theorem ofLine?_plain (hname : IsName name) (number : String) :
    Sample.ofLine? (name ++ " " ++ number) = some ⟨name, none, number⟩ := by
  have hline : (name ++ " " ++ number).toList = name.toList ++ ' ' :: number.toList := by simp
  have hspace := hname.span number.toList (c := ' ') (by decide)
  simp only [Sample.ofLine?, hline, hspace, String.ofList_toList]

/-- No sample is read from a comment. -/
theorem ofLine?_comment {line : String} (h : line.toList.head? = some '#') :
    Sample.ofLine? line = none := by
  obtain ⟨chars, hchars⟩ := List.head?_eq_some_iff.mp h
  rw [Sample.ofLine?, hchars, List.dropWhile_cons_of_neg (by decide)]
  rfl

/-- No sample is read from the lines that tell what a series is. -/
theorem filterMap_header (name help kind : String) :
    (header name help kind).filterMap Sample.ofLine? = [] := by
  rw [List.filterMap_eq_nil_iff]
  intro line hline
  rcases List.mem_pair.mp hline with rfl | rfl <;> exact ofLine?_comment (by simp)

/-- Decimal digits are read as the number that they write. -/
theorem number?_toDigits (n : Nat) : number? (Nat.toDigits 10 n) = some n := by
  have hdigits : ∀ c ∈ Nat.toDigits 10 n, c.isDigit :=
    fun c => Nat.isDigit_of_mem_toDigits (by decide) (by decide)
  rw [number?, if_neg Nat.toDigits_ne_nil, Text.absorbDigits?_of_isDigit hdigits,
    Nat.ofDigitChars_ten_toDigits]

/-- The bounds of the buckets are read back from their texts, none of which is that of the last
bucket. -/
theorem bound?_boundText : ∀ bound ∈ Histogram.bounds,
    boundText bound ≠ "+Inf" ∧ bound? (boundText bound) = some bound := by
  decide +kernel

/-! ## The text of metrics read back -/

/-- A sample with a label is one line, since line breaks in its value are escaped. -/
theorem newline_notMem_sample (hname : IsName name) (hlabel : IsName label) (value : String)
    (n : Nat) : '\n' ∉ (sample name label value (numberText n)).toList := by
  simp only [sample, String.toList_append, String.toList_ofList, List.mem_append, not_or]
  exact ⟨⟨⟨⟨⟨⟨hname.newline_notMem, by decide⟩, hlabel.newline_notMem⟩, by decide⟩,
    newline_notMem_escapeLabel _⟩, by decide⟩, newline_notMem_numberText n⟩

/-- A sample without a label is one line. -/
theorem newline_notMem_plain (hname : IsName name) (hnumber : '\n' ∉ number.toList) :
    '\n' ∉ (name ++ " " ++ number).toList := by
  simp only [String.toList_append, List.mem_append, not_or]
  exact ⟨⟨hname.newline_notMem, by decide⟩, hnumber⟩

/-- What stands above a family is on lines of its own. -/
theorem newline_notMem_header {help kind : String} (hname : IsName name)
    (hhelp : '\n' ∉ help.toList) (hkind : '\n' ∉ kind.toList) :
    ∀ line ∈ header name help kind, '\n' ∉ line.toList := by
  intro line hline
  rcases List.mem_pair.mp hline with rfl | rfl
  all_goals simp only [String.toList_append, List.mem_append, not_or]
  · exact ⟨⟨⟨by decide, hname.newline_notMem⟩, by decide⟩, hhelp⟩
  · exact ⟨⟨⟨by decide, hname.newline_notMem⟩, by decide⟩, hkind⟩

/-- No name that starts like the histogram's is the name of the counters. -/
theorem times_append_ne_checks (suffix : String) : timesName ++ suffix ≠ checksName := by
  have htimes : timesName.toList[18]? = some '_' := by decide +kernel
  have hchecks : checksName.toList[18]? = some 's' := by decide +kernel
  have hlength : 18 < timesName.toList.length := by decide +kernel
  intro h
  rw [← h, String.toList_append, List.getElem?_append_left hlength, htimes] at hchecks
  exact absurd hchecks (by decide)

/-- The finite buckets stand on one line each, in the order of their bounds. -/
theorem timesLines_eq (times : Histogram) :
    timesLines times =
      header timesName "Time from activation until the probe resolved" "histogram"
        ++ (Histogram.bounds.zip times.buckets).map (fun bucket =>
          sample (timesName ++ "_bucket") "le" (boundText bucket.1) (numberText bucket.2))
        ++ [sample (timesName ++ "_bucket") "le" "+Inf" (numberText times.count),
          timesName ++ "_sum" ++ " " ++ times.sumText,
          timesName ++ "_count" ++ " " ++ numberText times.count] := by
  have hsum : timesName ++ "_sum" ++ " " = timesName ++ "_sum " := by
    rw [String.append_assoc]
    rfl
  have hcount : timesName ++ "_count" ++ " " = timesName ++ "_count " := by
    rw [String.append_assoc]
    rfl
  rw [timesLines, ← List.map_uncurry_zip_eq_zipWith, hsum, hcount]
  rfl

/-- Whatever is recorded, each line of the metrics is one line of their text. -/
theorem newline_notMem_lines (metrics : Metrics) :
    ∀ line ∈ timesLines metrics.times ++ checksLines metrics.checks, '\n' ∉ line.toList := by
  rw [timesLines_eq, checksLines, List.forall_mem_append, List.forall_mem_append,
    List.forall_mem_append]
  refine ⟨⟨⟨newline_notMem_header isName_times (by decide +kernel) (by decide), ?_⟩, ?_⟩, ?_⟩
  · rw [List.forall_mem_map]
    exact fun bucket _ => newline_notMem_sample isName_bucket isName_le _ _
  · simp only [List.forall_mem_cons]
    exact ⟨newline_notMem_sample isName_bucket isName_le _ _,
      newline_notMem_plain isName_sum (newline_notMem_sumText _),
      newline_notMem_plain isName_count (newline_notMem_numberText _), List.forall_mem_nil _⟩
  · split
    · exact List.forall_mem_nil _
    · rw [List.forall_mem_append, List.forall_mem_map]
      exact ⟨newline_notMem_header isName_checks (by decide) (by decide), fun check _ =>
        newline_notMem_sample isName_checks isName_outcome _ _⟩

/-- The text of metrics has just their lines, and nothing behind the last line break. -/
theorem linesOf_exposition (metrics : Metrics) :
    linesOf metrics.exposition =
      timesLines metrics.times ++ checksLines metrics.checks ++ [""] :=
  linesOf_join (newline_notMem_lines metrics)

/-- The samples in the text of metrics. -/
theorem samplesIn_exposition (metrics : Metrics) :
    samplesIn metrics.exposition =
      ((Histogram.bounds.zip metrics.times.buckets).map fun bucket =>
          ⟨timesName ++ "_bucket", some ("le", boundText bucket.1), numberText bucket.2⟩)
        ++ [⟨timesName ++ "_bucket", some ("le", "+Inf"), numberText metrics.times.count⟩,
          ⟨timesName ++ "_sum", none, metrics.times.sumText⟩,
          ⟨timesName ++ "_count", none, numberText metrics.times.count⟩]
        ++ metrics.checks.map fun check =>
          ⟨checksName, some ("outcome", check.1), numberText check.2⟩ := by
  have hchecks : (checksLines metrics.checks).filterMap Sample.ofLine? =
      metrics.checks.map fun check =>
        ⟨checksName, some ("outcome", check.1), numberText check.2⟩ := by
    rw [checksLines]
    split
    case isTrue hnone => rw [hnone]; rfl
    case isFalse =>
      rw [List.filterMap_append, filterMap_header, List.filterMap_map]
      simp [ofLine?_sample isName_checks isName_outcome]
  have hlast : [""].filterMap Sample.ofLine? = [] := by decide +kernel
  rw [samplesIn, linesOf_exposition, List.filterMap_append, List.filterMap_append, hchecks, hlast,
    timesLines_eq, List.filterMap_append, List.filterMap_append, filterMap_header,
    List.filterMap_map]
  simp [ofLine?_sample isName_bucket isName_le, ofLine?_plain isName_sum,
    ofLine?_plain isName_count]

/-- No number of the metrics is so large that its text stands for others too. -/
structure IsExact (metrics : Metrics) : Prop where
  checks : ∀ check ∈ metrics.checks, check.2 ≤ 2 ^ 53
  buckets : ∀ bucket ∈ metrics.times.buckets, bucket ≤ 2 ^ 53
  count : metrics.times.count ≤ 2 ^ 53

variable {metrics : Metrics}

/-- A number up to 2^53 is read back from its text. -/
theorem number?_numberText (h : n ≤ 2 ^ 53) : number? (numberText n).toList = some n := by
  rw [numberText_of_le h]
  exact (congrArg number? String.toList_ofList).trans (number?_toDigits n)

/-- The counters are read back. -/
theorem countersIn_exposition (exact_ : metrics.IsExact) :
    countersIn metrics.exposition = metrics.checks := by
  have hcounters : metrics.checks.filterMap (fun check =>
      Sample.counter? ⟨checksName, some ("outcome", check.1), numberText check.2⟩) =
      metrics.checks := by
    refine (List.filterMap_congr fun check hcheck => ?_).trans List.filterMap_some
    simp [Sample.counter?, number?_numberText (exact_.checks check hcheck)]
  have hbucket (bound number : String) :
      Sample.counter? ⟨timesName ++ "_bucket", some ("le", bound), number⟩ = none := by
    simp [Sample.counter?, times_append_ne_checks]
  have hplain (name number : String) : Sample.counter? ⟨name, none, number⟩ = none := rfl
  rw [countersIn, samplesIn_exposition, List.filterMap_append, List.filterMap_append,
    List.filterMap_map, List.filterMap_map]
  simp only [Function.comp_def, hcounters, hbucket, hplain, List.filterMap_cons,
    List.filterMap_nil, List.filterMap_none, List.nil_append]

/-- The buckets are read back, each with its bound. -/
theorem bucketsIn_exposition (exact_ : metrics.IsExact) :
    bucketsIn metrics.exposition =
      (Histogram.bounds.zip metrics.times.buckets).map (fun bucket => (some bucket.1, bucket.2))
        ++ [(none, metrics.times.count)] := by
  have hfinite : (Histogram.bounds.zip metrics.times.buckets).filterMap (fun bucket =>
      Sample.bucket? ⟨timesName ++ "_bucket", some ("le", boundText bucket.1),
        numberText bucket.2⟩) =
      (Histogram.bounds.zip metrics.times.buckets).map fun bucket => (some bucket.1, bucket.2) := by
    rw [← List.filterMap_eq_map]
    refine List.filterMap_congr fun bucket hbucket => ?_
    obtain ⟨hbound, hnumber⟩ := List.of_mem_zip hbucket
    obtain ⟨hne, hread⟩ := bound?_boundText bucket.1 hbound
    simp [Sample.bucket?, hne, hread, number?_numberText (exact_.buckets bucket.2 hnumber)]
  have hlast : Sample.bucket? ⟨timesName ++ "_bucket", some ("le", "+Inf"),
      numberText metrics.times.count⟩ = some (none, metrics.times.count) := by
    simp [Sample.bucket?, number?_numberText exact_.count]
  have hcounter (outcome number : String) :
      Sample.bucket? ⟨checksName, some ("outcome", outcome), number⟩ = none := by
    simp [Sample.bucket?, (times_append_ne_checks _).symm]
  have hplain (name number : String) : Sample.bucket? ⟨name, none, number⟩ = none := rfl
  rw [bucketsIn, samplesIn_exposition, List.filterMap_append, List.filterMap_append,
    List.filterMap_map, List.filterMap_map]
  simp only [Function.comp_def, hfinite, hlast, hcounter, hplain, List.filterMap_cons,
    List.filterMap_nil, List.filterMap_none, List.append_nil]

/-- The number of times is read back. -/
theorem countsIn_exposition (exact_ : metrics.IsExact) :
    countsIn metrics.exposition = [metrics.times.count] := by
  have hcount : Sample.count? ⟨timesName ++ "_count", none, numberText metrics.times.count⟩ =
      some metrics.times.count := by
    simp [Sample.count?, number?_numberText exact_.count]
  have hother {name : String} (h : name ≠ timesName ++ "_count") (label : Option (String × String))
      (number : String) : Sample.count? ⟨name, label, number⟩ = none :=
    if_neg h
  have hbucket : timesName ++ "_bucket" ≠ timesName ++ "_count" := by simp
  have hsum : timesName ++ "_sum" ≠ timesName ++ "_count" := by simp
  have hcounter : checksName ≠ timesName ++ "_count" := (times_append_ne_checks _).symm
  rw [countsIn, samplesIn_exposition, List.filterMap_append, List.filterMap_append,
    List.filterMap_map, List.filterMap_map]
  simp only [Function.comp_def, hcount, hother hbucket, hother hsum, hother hcounter,
    List.filterMap_cons, List.filterMap_nil, List.filterMap_none, List.append_nil, List.nil_append]

/-! ## The text tells what calls recorded -/

variable {calls more : List Call}

/-- The line of a counter. -/
def counterLine (counter : String × Nat) : String :=
  sample checksName "outcome" counter.1 (numberText counter.2)

/-- The outcome of a counter is read back from its line, so counters with one line have one
outcome. -/
theorem fst_eq_of_counterLine_eq {first second : String × Nat}
    (h : counterLine first = counterLine second) : first.1 = second.1 := by
  have hread (counter : String × Nat) :
      Sample.ofLine? (counterLine counter) =
        some ⟨checksName, some ("outcome", counter.1), numberText counter.2⟩ :=
    ofLine?_sample isName_checks isName_outcome _ _
  have hsample := (hread first).symm.trans ((congrArg Sample.ofLine? h).trans (hread second))
  simp only [Option.some.injEq, Sample.mk.injEq, Prod.mk.injEq, true_and] at hsample
  exact hsample.1

/-- No more times are recorded than outcomes. -/
theorem length_spansIn_le (calls : List Call) :
    (spansIn calls).length ≤ (recordedIn calls).length := by
  induction calls with
  | nil => exact le_rfl
  | cons call calls ih =>
    cases call with
    | record => exact Nat.succ_le_succ ih
    | recordCancelled => exact ih.trans (Nat.le_succ _)
    | read | gather => exact ih

/-- The times of the calls that are at most each bound, and how many there are. -/
theorem times_ofCalls_eq (calls : List Call) :
    (ofCalls calls).times.buckets =
        Histogram.bounds.map (fun bound => (spansIn calls).countP (·.inNanoseconds ≤ bound)) ∧
      (ofCalls calls).times.count = (spansIn calls).length := by
  rw [times_ofCalls]
  exact (foldl_observe (spansIn calls)).symm

/-- After few records every number is exact. -/
theorem isExact_ofCalls (few : (recordedIn calls).length ≤ 2 ^ 53) : (ofCalls calls).IsExact := by
  obtain ⟨hbuckets, hcount⟩ := times_ofCalls_eq calls
  have htimes := (length_spansIn_le calls).trans few
  refine ⟨fun check hcheck => ?_, ?_, hcount ▸ htimes⟩
  · rw [(mem_checks_ofCalls_iff.mp hcheck).2]
    exact List.countP_le_length.trans few
  · rw [hbuckets, List.forall_mem_map]
    exact fun bound _ => List.countP_le_length.trans htimes

/-- The buckets after some calls: each holds the recorded times that are at most its bound. -/
theorem bucketsIn_ofCalls (few : (recordedIn calls).length ≤ 2 ^ 53) :
    bucketsIn (ofCalls calls).exposition =
      Histogram.bounds.map (fun bound =>
          (some bound, (spansIn calls).countP (·.inNanoseconds ≤ bound)))
        ++ [(none, (spansIn calls).length)] := by
  obtain ⟨hbuckets, hcount⟩ := times_ofCalls_eq calls
  rw [bucketsIn_exposition (isExact_ofCalls few), hcount, hbuckets, List.zip,
    List.zipWith_map_right, List.zipWith_self, List.map_map]
  rfl

/-- Along the buckets the numbers never decrease. -/
theorem pairwise_bucketsIn (few : (recordedIn calls).length ≤ 2 ^ 53) :
    ((bucketsIn (ofCalls calls).exposition).map Prod.snd).Pairwise (· ≤ ·) := by
  have hbounds : Histogram.bounds.Pairwise (· ≤ ·) := by decide
  rw [bucketsIn_ofCalls few, List.map_append, List.map_map, List.pairwise_append, List.pairwise_map]
  refine ⟨hbounds.imp fun hle => List.countP_mono_left fun span _ hspan => ?_,
    List.pairwise_singleton _ _, ?_⟩
  · simp only [decide_eq_true_eq] at hspan ⊢
    exact hspan.trans hle
  · simp only [List.map_cons, List.map_nil, List.mem_singleton, List.forall_mem_map,
      Function.comp_apply, forall_eq]
    exact fun bound _ => List.countP_le_length

/-- The counters after some calls: one for each key, of the first outcome with the key that was
recorded or read, and how many calls recorded an outcome with the key. -/
theorem mem_countersIn_ofCalls_iff (few : (recordedIn calls).length ≤ 2 ^ 53) (outcome : String)
    (n : Nat) :
    (outcome, n) ∈ countersIn (ofCalls calls).exposition ↔
      firstShown? calls outcome = some outcome ∧
        n = (recordedIn calls).countP fun other => key other = key outcome := by
  rw [countersIn_exposition (isExact_ofCalls few)]
  exact mem_checks_ofCalls_iff

/-- Where outcomes have keys of their own: one counter for each outcome that was recorded or read,
and how many calls recorded it. -/
theorem AreApart.mem_countersIn_ofCalls_iff (apart : AreApart calls)
    (few : (recordedIn calls).length ≤ 2 ^ 53) (outcome : String) (n : Nat) :
    (outcome, n) ∈ countersIn (ofCalls calls).exposition ↔
      outcome ∈ shownIn calls ∧ n = (recordedIn calls).count outcome := by
  rw [countersIn_exposition (isExact_ofCalls few)]
  exact apart.mem_checks_ofCalls_iff

/-- The count after some calls is that of the recorded times. -/
theorem countsIn_ofCalls (few : (recordedIn calls).length ≤ 2 ^ 53) :
    countsIn (ofCalls calls).exposition = [(spansIn calls).length] := by
  rw [countsIn_exposition (isExact_ofCalls few), (times_ofCalls_eq calls).2]

/-- More reads leave all counters as they were, and a counter that they add is zero: an outcome that
was recorded would have been shown without them. -/
theorem ReadsInserted.countersIn (h : ReadsInserted calls more) (apart : AreApart more)
    (few : (recordedIn calls).length ≤ 2 ^ 53) :
    countersIn (ofCalls calls).exposition ⊆ countersIn (ofCalls more).exposition ∧
      ∀ counter ∈ countersIn (ofCalls more).exposition,
        counter ∉ countersIn (ofCalls calls).exposition → counter.2 = 0 := by
  obtain ⟨hrecorded, -, hsubset⟩ := h.records
  have hfewer := (apart.of_readsInserted h).mem_countersIn_ofCalls_iff few
  have hmore := apart.mem_countersIn_ofCalls_iff (hrecorded ▸ few)
  simp only [hrecorded] at hmore
  refine ⟨fun counter hcounter => ?_, fun counter hmem hnew => ?_⟩
  · obtain ⟨hshown, hn⟩ := (hfewer _ _).mp hcounter
    exact (hmore _ _).mpr ⟨hsubset hshown, hn⟩
  · have hn := ((hmore _ _).mp hmem).2
    have hnever : counter.1 ∉ recordedIn calls := fun hrecords =>
      hnew ((hfewer _ _).mpr ⟨recordedIn_subset_shownIn hrecords, hn⟩)
    exact hn.trans (List.count_eq_zero.mpr hnever)

/-- The text after up to 2^53 records can be read back to just what was recorded. Each key of an
outcome that was recorded or read has one line, which bears the first outcome with the key, the
lines sorted by outcome, and tells how many calls recorded an outcome with the key. So where no two
of the outcomes have one key, each of them has one line, which tells how many calls recorded it.
Each bucket tells how many recorded times are at most its bound, and the last bucket and the count
how many times there are. More reads among the calls change none of these numbers, and what they add
is zero. -/
theorem exposition_tells_history (calls : List Call)
    (few : (recordedIn calls).length ≤ 2 ^ 53) :
    let text := (ofCalls calls).exposition
    ((countersIn text).map Prod.fst).Pairwise (· < ·) ∧
      (∀ outcome n, (outcome, n) ∈ countersIn text ↔
        firstShown? calls outcome = some outcome ∧
          n = (recordedIn calls).countP fun other => key other = key outcome) ∧
      (AreApart calls → ∀ outcome n, (outcome, n) ∈ countersIn text ↔
        (∃ call ∈ calls, call.shown? = some outcome) ∧ n = (recordedIn calls).count outcome) ∧
      (∃ front, linesOf text = front ++ (countersIn text).map counterLine ++ [""]) ∧
      ((countersIn text).map counterLine).Nodup ∧
      bucketsIn text =
        Histogram.bounds.map (fun bound =>
            (some bound, (spansIn calls).countP (·.inNanoseconds ≤ bound)))
          ++ [(none, (spansIn calls).length)] ∧
      ((bucketsIn text).map Prod.snd).Pairwise (· ≤ ·) ∧
      countsIn text = [(spansIn calls).length] ∧
      ∀ more, ReadsInserted calls more →
        bucketsIn (ofCalls more).exposition = bucketsIn text ∧
        countsIn (ofCalls more).exposition = countsIn text ∧
        (AreApart more →
          countersIn text ⊆ countersIn (ofCalls more).exposition ∧
          ∀ counter ∈ countersIn (ofCalls more).exposition, counter ∉ countersIn text →
            counter.2 = 0) := by
  intro text
  have hchecks := countersIn_exposition (isExact_ofCalls few)
  have hsorted : ((countersIn text).map Prod.fst).Pairwise (· < ·) := by
    rw [hchecks]
    exact (isSorted_ofCalls calls).ordered
  have hlines : ((countersIn text).map counterLine).Nodup :=
    List.pairwise_map.mpr ((List.pairwise_map.mp hsorted).imp fun hlt heq =>
      hlt.ne (fst_eq_of_counterLine_eq heq))
  refine ⟨hsorted, mem_countersIn_ofCalls_iff few, fun apart outcome n => ?_, ?_,
    hlines, bucketsIn_ofCalls few, pairwise_bucketsIn few, countsIn_ofCalls few,
    fun more hmore => ?_⟩
  · simpa [shownIn] using apart.mem_countersIn_ofCalls_iff few outcome n
  · rw [linesOf_exposition, hchecks, checksLines]
    split
    case isTrue hnone => exact ⟨timesLines (ofCalls calls).times, by rw [hnone]; simp⟩
    case isFalse => exact ⟨_, by rw [← List.append_assoc]; rfl⟩
  · obtain ⟨hrecorded, hspans, -⟩ := hmore.records
    have hfew := hrecorded ▸ few
    refine ⟨?_, ?_, fun apart => hmore.countersIn apart few⟩
    · rw [bucketsIn_ofCalls hfew, bucketsIn_ofCalls few, hspans]
    · rw [countsIn_ofCalls hfew, countsIn_ofCalls few, hspans]

/-- An outcome with a quote, a backslash and a line break that is only read, among two that are
recorded, and a read of another inserted before all of them. -/
theorem exposition_tells_history_escaped :
    let calls : List Call :=
      [.read "a\"\\\n", .record .error (.ofSeconds 1), .gather, .recordCancelled]
    let more : List Call := .read "new" :: calls
    (recordedIn calls).length ≤ 2 ^ 53 ∧ AreApart more ∧ ReadsInserted calls more ∧
      ("a\"\\\n", 0) ∈ countersIn (ofCalls calls).exposition ∧
      ("error", 1) ∈ countersIn (ofCalls calls).exposition ∧
      countsIn (ofCalls more).exposition = [1] ∧
      countersIn (ofCalls calls).exposition ⊆ countersIn (ofCalls more).exposition := by
  intro calls more
  have hfew : (recordedIn calls).length ≤ 2 ^ 53 := by decide
  have hapart : AreApart more := by
    have hkeys : ((shownIn more).map key).Nodup := by decide +kernel
    exact fun _ houtcome _ hother => List.inj_on_of_nodup_map hkeys houtcome hother
  have hinserted : ReadsInserted calls more :=
    .insert _ (.keep _ (.keep _ (.keep _ (.keep _ .nil))))
  obtain ⟨-, -, hcounters, -, -, -, -, hcount, hmore⟩ := exposition_tells_history calls hfew
  have hown := hcounters (hapart.of_readsInserted hinserted)
  obtain ⟨-, hsame, hreads⟩ := hmore more hinserted
  refine ⟨hfew, hapart, hinserted, ?_, ?_, hsame.trans hcount, (hreads hapart).1⟩
  · exact (hown _ _).mpr ⟨⟨_, List.mem_cons_self, rfl⟩, by decide +kernel⟩
  · exact (hown _ _).mpr
      ⟨⟨_, List.mem_cons_of_mem _ List.mem_cons_self, rfl⟩, by decide +kernel⟩

/-! ## Where the text tells less -/

/-- What is left of checks that were given up, and of nothing else. -/
theorem ofCalls_replicate_recordCancelled {n : Nat} (positive : 0 < n) :
    ofCalls (List.replicate n .recordCancelled) = { empty with checks := [(cancelled, n)] } := by
  induction n, positive using Nat.le_induction with
  | base => rfl
  | succ n _ ih =>
    rw [List.replicate_succ', ofCalls_concat, ih]
    simp [perform, recordCancelled, add]

/-- Two outcomes with one key have one counter, under the name of the one that is read first. And
the text after 2^53 records and after one more is the same. -/
theorem one_counter_of_two_outcomes :
    let first := "8yn0iYCKYHlIj4-BwPqk"
    let second := "GReLUrM4wMqfg9yzV3KQ"
    let calls : List Call := [.read first, .read second]
    let cancellations (n : Nat) : List Call := List.replicate n .recordCancelled
    first ≠ second ∧ shownIn calls = [first, second] ∧
      countersIn (ofCalls calls).exposition = [(first, 0)] ∧
      recordedIn (cancellations (2 ^ 53)) ≠ recordedIn (cancellations (2 ^ 53 + 1)) ∧
      (ofCalls (cancellations (2 ^ 53))).exposition =
        (ofCalls (cancellations (2 ^ 53 + 1))).exposition := by
  intro first second calls cancellations
  have hcalls : (recordedIn calls).length ≤ 2 ^ 53 := by decide
  have hchecks : (ofCalls calls).checks = [(first, 0)] := by decide +kernel
  have hlength (n : Nat) : (recordedIn (cancellations n)).length = n := by
    have hcancelled : recordedIn (cancellations n) = List.replicate n cancelled :=
      List.filterMap_replicate_of_some rfl
    rw [hcancelled, List.length_replicate]
  have hnumbers : numberText (2 ^ 53) = numberText (2 ^ 53 + 1) :=
    Decimal.whole_eq_next Decimal.Layout.plain
  refine ⟨by decide, rfl, (countersIn_exposition (isExact_ofCalls hcalls)).trans hchecks, ?_, ?_⟩
  · intro hsame
    have hnext : 2 ^ 53 = 2 ^ 53 + 1 :=
      (hlength _).symm.trans ((congrArg List.length hsame).trans (hlength _))
    exact absurd hnext (by decide)
  · have htext {n : Nat} (positive : 0 < n) : (ofCalls (cancellations n)).exposition =
        String.join ((timesLines .empty ++
          (header checksName "Health probes by outcome" "counter" ++
          [sample checksName "outcome" cancelled (numberText n)])).map (· ++ "\n")) := by
      rw [ofCalls_replicate_recordCancelled positive]
      rfl
    rw [htext (Nat.two_pow_pos 53), htext (Nat.succ_pos (2 ^ 53)), hnumbers]

end Metrics

end HealthPanel
