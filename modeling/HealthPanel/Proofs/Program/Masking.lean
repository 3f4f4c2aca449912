import HealthPanel.Program.Session
import HealthPanel.Proofs.Json.Pretty
import HealthPanel.Proofs.Metrics.Exposition
import Mathlib.Data.List.Forall2

/-!
# What is printed apart from times

Two runs that differ in nothing but the times at which they were made print different timestamps
and, in the metrics, another sum and other buckets. Where these stand can be told from the start of
their lines. A text is masked by cutting each of these lines behind its start, and what is left of
the printed text depends on nothing but the report without its time and the counters.
-/

namespace HealthPanel

open HealthPanel.Text (hexDigit)

/-! ## The mask -/

/-- What follows the name of the histogram on the lines of its sum and of its finite buckets. -/
def hiddenSamples : List String :=
  "_sum " :: Histogram.bounds.map fun bound =>
    "_bucket\x7ble=\"" ++ Metrics.boundText bound ++ "\"\x7d "

/-- The starts of the lines that end in a time or depend on one: that of the timestamp in a report,
and those of the sum and of every finite bucket in the metrics. -/
def hiddenHeads : List (List Char) :=
  "  \"checked_at\": ".toList ::
    hiddenSamples.map fun sample => Metrics.timesName.toList ++ sample.toList

/-- A line without what follows a start that hides the rest. -/
def mask (line : List Char) : List Char :=
  (hiddenHeads.find? fun head => head <+: line).getD line

/-- The lines of a text, masked. -/
def masked (text : String) : List (List Char) :=
  (text.toList.splitOn '\n').map mask

/-- No name of a hidden sample is the start of another. -/
theorem pairwise_hiddenSamples : hiddenSamples.Pairwise fun a b =>
    ¬a.toList <+: b.toList ∧ ¬b.toList <+: a.toList := by
  decide +kernel

/-- No start that hides the rest is the start of another. -/
theorem pairwise_hiddenHeads : hiddenHeads.Pairwise fun a b => ¬a <+: b ∧ ¬b <+: a := by
  have hquote : "  \"checked_at\": ".toList.head? = some ' ' := by decide +kernel
  have hname : Metrics.timesName.toList.head? = some 's' := by decide +kernel
  rw [hiddenHeads, List.pairwise_cons, List.pairwise_map]
  constructor
  · intro head hhead
    obtain ⟨sample, -, rfl⟩ := List.mem_map.mp hhead
    constructor
    · rintro ⟨rest, h⟩
      simpa [hquote, hname] using congrArg List.head? h
    · rintro ⟨rest, h⟩
      simpa [hquote, hname] using congrArg List.head? h
  · simpa only [List.prefix_append_right_inj] using pairwise_hiddenSamples

/-- A line is cut behind the start that hides the rest. -/
theorem mask_append {head : List Char} (hidden : head ∈ hiddenHeads) (rest : List Char) :
    mask (head ++ rest) = head := by
  obtain ⟨before, after, hparts⟩ := List.append_of_mem hidden
  have hpairwise := pairwise_hiddenHeads
  rw [hparts, List.pairwise_append] at hpairwise
  have hfind : (hiddenHeads.find? fun start => start <+: head ++ rest) = some head := by
    refine List.find?_eq_some_iff_append.mpr
      ⟨by simp, before, after, hparts, fun other hother => ?_⟩
    have hapart := hpairwise.2.2 other hother head List.mem_cons_self
    have hnot : ¬other <+: head ++ rest := fun h =>
      (List.prefix_or_prefix_of_prefix h (List.prefix_append head rest)).elim hapart.1 hapart.2
    simpa using hnot
  rw [mask, hfind, Option.getD_some]

/-- Texts are masked line by line. -/
theorem masked_append_newline (first rest : String) :
    masked (first ++ "\n" ++ rest) = masked first ++ masked rest := by
  simp [masked, List.splitOn_append_cons_self]

/-- Of a line with a start that hides the rest, this start is left. -/
theorem masked_hidden {head text : String} (hidden : head.toList ∈ hiddenHeads)
    (line : '\n' ∉ (head ++ text).toList) : masked (head ++ text) = [head.toList] := by
  rw [masked, List.splitOn_eq_singleton line, List.map_singleton, String.toList_append,
    mask_append hidden]

/-- Two texts whose lines agree masked agree masked. -/
theorem masked_join {first second : List String}
    (alike : List.Forall₂ (fun a b => masked a = masked b) first second) :
    masked (String.join (first.map (· ++ "\n"))) =
      masked (String.join (second.map (· ++ "\n"))) := by
  induction alike with
  | nil => rfl
  | cons hline _ ih =>
    simp only [List.map_cons, String.join_cons, masked_append_newline, hline, ih]

/-! ## The metrics -/

/-- The name of a hidden sample is on one line. -/
theorem newline_notMem_hiddenSamples : ∀ start ∈ hiddenSamples, '\n' ∉ start.toList := by
  decide +kernel

/-- Of a sample of the histogram that depends on times, its start is left. -/
theorem masked_sample {start number : String} (hidden : start ∈ hiddenSamples)
    (line : '\n' ∉ number.toList) :
    masked (Metrics.timesName ++ start ++ number) =
      [Metrics.timesName.toList ++ start.toList] := by
  have hname : '\n' ∉ Metrics.timesName.toList := by decide +kernel
  have hhead : (Metrics.timesName ++ start).toList ∈ hiddenHeads := by
    rw [String.toList_append]
    exact List.mem_cons_of_mem _ (List.mem_map.mpr ⟨start, hidden, rfl⟩)
  rw [masked_hidden hhead, String.toList_append]
  simp only [String.toList_append, List.mem_append, not_or]
  exact ⟨⟨hname, newline_notMem_hiddenSamples start hidden⟩, line⟩

/-- The bound of a bucket is written without escapes. -/
theorem escape_boundText : ∀ bound ∈ Histogram.bounds,
    String.ofList ((Metrics.boundText bound).toList.flatMap Metrics.escapeLabel) =
      Metrics.boundText bound := by
  decide +kernel

/-- Of the sample of a finite bucket nothing is left that depends on its value. -/
theorem masked_bucket {bound : Nat} (hbound : bound ∈ Histogram.bounds) (m n : Nat) :
    masked (Metrics.sample (Metrics.timesName ++ "_bucket") "le" (Metrics.boundText bound)
        (Metrics.numberText m)) =
      masked (Metrics.sample (Metrics.timesName ++ "_bucket") "le" (Metrics.boundText bound)
        (Metrics.numberText n)) := by
  have hsample (k : Nat) : Metrics.sample (Metrics.timesName ++ "_bucket") "le"
      (Metrics.boundText bound) (Metrics.numberText k) =
        Metrics.timesName ++ ("_bucket\x7ble=\"" ++ Metrics.boundText bound ++ "\"\x7d ")
          ++ Metrics.numberText k := by
    have hstart : "_bucket" ++ "\x7b" ++ "le" ++ "=\"" = "_bucket\x7ble=\"" := by decide +kernel
    rw [Metrics.sample, escape_boundText bound hbound, ← hstart]
    simp only [String.append_assoc]
  have hhidden : "_bucket\x7ble=\"" ++ Metrics.boundText bound ++ "\"\x7d " ∈ hiddenSamples :=
    List.mem_cons_of_mem _ (List.mem_map.mpr ⟨bound, hbound, rfl⟩)
  rw [hsample, hsample, masked_sample hhidden (Metrics.newline_notMem_numberText m),
    masked_sample hhidden (Metrics.newline_notMem_numberText n)]

/-- Finite buckets agree masked if there are equally many. -/
theorem forall₂_buckets : ∀ (bounds first second : List Nat), bounds ⊆ Histogram.bounds →
    first.length = second.length →
    let line (bound n : Nat) :=
      Metrics.sample (Metrics.timesName ++ "_bucket") "le" (Metrics.boundText bound)
        (Metrics.numberText n)
    List.Forall₂ (fun a b => masked a = masked b) (List.zipWith line bounds first)
      (List.zipWith line bounds second)
  | [], _, _, _, _ => .nil
  | _ :: _, [], [], _, _ => .nil
  | _ :: bounds, m :: first, n :: second, hbounds, hlength =>
    .cons (masked_bucket (hbounds List.mem_cons_self) m n)
      (forall₂_buckets bounds first second (List.subset_of_cons_subset hbounds)
        (Nat.succ.inj hlength))

/-- Metrics agree masked if they count the same outcomes and equally many times. -/
theorem masked_exposition (checks : List (String × Nat)) {first second : Histogram}
    (buckets : first.buckets.length = second.buckets.length) (count : first.count = second.count) :
    masked (Metrics.exposition ⟨checks, first⟩) = masked (Metrics.exposition ⟨checks, second⟩) := by
  have hsame (lines : List String) : List.Forall₂ (fun a b => masked a = masked b) lines lines :=
    List.forall₂_same.mpr fun _ _ => rfl
  have hsum : masked (Metrics.timesName ++ "_sum " ++ first.sumText) =
      masked (Metrics.timesName ++ "_sum " ++ second.sumText) := by
    rw [masked_sample List.mem_cons_self (newline_notMem_sumText first),
      masked_sample List.mem_cons_self (newline_notMem_sumText second)]
  apply masked_join
  refine List.rel_append (List.rel_append (List.rel_append (hsame _) ?_) ?_) (hsame _)
  · exact forall₂_buckets _ _ _ (List.Subset.refl _) buckets
  · rw [count]
    exact .cons rfl (.cons hsum (hsame _))

/-! ## The report -/

/-- A line break inside a text is escaped. -/
theorem newline_notMem_quoted (text : String) : '\n' ∉ (Json.quoted text).toList := by
  have hhex : ∀ n < 16, '\n' ≠ hexDigit n := by decide
  have hescape (c : Char) : '\n' ∉ Json.escape c := by
    rw [Json.escape.eq_def]
    split
    case h_8 hnewline _ _ =>
      split
      case isTrue hcontrol =>
        have hhigh := hhex (c.toNat / 16) (by omega)
        have hlow := hhex (c.toNat % 16) (Nat.mod_lt _ (by decide))
        simp [hhigh, hlow]
      case isFalse => simpa [eq_comm] using hnewline
    all_goals decide
  simp only [Json.quoted, String.toList_append, String.toList_ofList, List.mem_append,
    List.mem_flatMap, not_or, not_exists, not_and]
  exact ⟨⟨by decide, fun c _ => hescape c⟩, by decide⟩

/-- A report at two times is the same document masked. -/
theorem masked_pretty (report : Report) (first second : Instant) :
    masked ({ report with checkedAt := some first } : Report).toJson.pretty =
      masked ({ report with checkedAt := some second } : Report).toJson.pretty := by
  -- The members before the time, and the last line with the one member behind it.
  let before : List (String × Json.Value) :=
    [("state", .text report.state), ("indicator", .text report.indicator)]
      ++ Report.ifPresent "version" (report.details.bind Details.version)
      ++ Report.ifPresent "environment" (report.details.bind Details.environment)
      ++ Report.ifPresent "city" (report.details.map Details.city)
  have hparts (time : Instant) :
      ({ report with checkedAt := some time } : Report).toJson.pretty =
        "\x7b" ++ Json.Value.prettyMembers 1 before ++ "," ++ "\n"
          ++ ("  \"checked_at\": " ++ (Json.quoted time.timestamp ++ ",")) ++ "\n"
          ++ ("  \"docs_url\": " ++ Json.quoted report.docsUrl ++ "\n\x7d") := by
    have hmembers : ({ report with checkedAt := some time } : Report).toJson =
        .object (before ++
          [("checked_at", .text time.timestamp), ("docs_url", .text report.docsUrl)]) := by
      simp only [Report.toJson, before, Report.ifPresent, Option.map_some, Option.toList_some,
        List.append_assoc, List.cons_append, List.nil_append]
    have hnewLine : Json.Value.newLine 1 = "\n" ++ "  " := by decide +kernel
    have hclosing : Json.Value.newLine 0 = "\n" := by decide +kernel
    have hcheckedAt : "  " ++ Json.quoted "checked_at" ++ ": " = "  \"checked_at\": " := by
      decide +kernel
    have hdocsUrl : "  " ++ Json.quoted "docs_url" ++ ": " = "  \"docs_url\": " := by
      decide +kernel
    have hend : "\n" ++ "\x7d" = "\n\x7d" := by decide +kernel
    have hbefore : before ≠ [] := List.cons_ne_nil _ _
    have hall (after : List (String × Json.Value)) : before ++ after ≠ [] :=
      List.append_ne_nil_of_left_ne_nil hbefore after
    rw [hmembers, Json.Value.pretty, Json.prettyAt_object 0 (hall _),
      Json.prettyMembers_append _ hbefore (List.cons_ne_nil _ _), ← hcheckedAt, ← hdocsUrl, ← hend]
    simp only [Json.Value.prettyMembers, Json.Value.prettyAt, hnewLine, hclosing,
      String.append_assoc]
  have hline (time : Instant) :
      masked ("  \"checked_at\": " ++ (Json.quoted time.timestamp ++ ",")) =
        ["  \"checked_at\": ".toList] := by
    refine masked_hidden List.mem_cons_self ?_
    simp [newline_notMem_quoted]
  simp only [hparts, masked_append_newline, hline]

/-- A report at two times is printed the same masked, with metrics that agree masked. -/
theorem masked_text (report : Report) (first second : Instant) (json : Bool)
    {metrics others : Option Metrics}
    (alike : masked (metrics.elim "" Metrics.exposition) =
      masked (others.elim "" Metrics.exposition)) :
    masked (Output.text ⟨{ report with checkedAt := some first }, metrics⟩ json) =
      masked (Output.text ⟨{ report with checkedAt := some second }, others⟩ json) := by
  have htext : ({ report with checkedAt := some first } : Report).text =
      ({ report with checkedAt := some second } : Report).text := rfl
  rw [Output.text, Output.text, masked_append_newline, masked_append_newline, alike]
  cases json with
  | true => rw [if_pos rfl, if_pos rfl, masked_pretty report first second]
  | false => simp only [Bool.false_eq_true, if_false, htext]

end HealthPanel
