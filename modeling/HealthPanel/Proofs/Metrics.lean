import HealthPanel.Metrics
import Mathlib.Data.List.Nodup
import Mathlib.Data.String.Basic

/-!
# What recording and reading do to counters

A counter is found by the key of its outcome, and no two counters have one key. They are kept sorted
by outcome, so that each has one place. Recording adds one to one counter, reading adds nothing, and
neither touches any other counter. The histogram counts the probes that resolved, whichever of the
three states they ended in.
-/

namespace HealthPanel.Metrics

variable {outcome other : String} {amount n : Nat} {check : String × Nat}
  {checks : List (String × Nat)} {metrics : Metrics}

/-- The counters are sorted, and each is found by a key of its own. -/
structure IsSorted (metrics : Metrics) : Prop where
  ordered : (metrics.checks.map Prod.fst).Pairwise (· < ·)
  apart : metrics.checks.Pairwise fun a b => key a.1 ≠ key b.1

/-! ## Adding to a counter -/

/-- What the counter of an outcome shows among some counters. -/
def countIn (checks : List (String × Nat)) (outcome : String) : Nat :=
  (checks.find? fun check => key check.1 = key outcome).elim 0 Prod.snd

/-- A counter that is put among others is there, and so are they. -/
theorem perm_insert (check : String × Nat) (checks : List (String × Nat)) :
    (insert check checks).Perm (check :: checks) := by
  induction checks with
  | nil => exact .refl _
  | cons first rest ih =>
    rw [insert]
    split
    case isTrue => exact .refl _
    case isFalse => exact (ih.cons first).trans (.swap check first rest)

/-- A counter of a new outcome is put where it belongs. -/
theorem pairwise_insert (new : ∀ other ∈ checks, other.1 ≠ check.1)
    (ordered : (checks.map Prod.fst).Pairwise (· < ·)) :
    ((insert check checks).map Prod.fst).Pairwise (· < ·) := by
  rw [List.pairwise_map] at ordered ⊢
  induction checks with
  | nil => simp [insert]
  | cons first rest ih =>
    obtain ⟨hfirst, hrest⟩ := List.pairwise_cons.mp ordered
    obtain ⟨hne, hnew⟩ := List.forall_mem_cons.mp new
    rw [insert]
    split
    case isTrue hlt =>
      refine List.pairwise_cons.mpr ⟨List.forall_mem_cons.mpr ⟨hlt, ?_⟩, ordered⟩
      exact fun later hlater => hlt.trans (hfirst later hlater)
    case isFalse hnot =>
      refine List.pairwise_cons.mpr ⟨fun later hlater => ?_, ih hnew hrest⟩
      rcases List.mem_cons.mp ((perm_insert check rest).mem_iff.mp hlater) with rfl | hmem
      · exact lt_of_le_of_ne (not_lt.mp hnot) hne
      · exact hfirst later hmem

/-- There is no counter with the key of an outcome if none is found. -/
theorem key_ne_of_not_any
    (h : ¬(checks.any fun check => key check.1 = key outcome) = true) :
    ∀ check ∈ checks, key check.1 ≠ key outcome := by
  simpa using h

/-- Adding to a counter that is there leaves the outcomes as they are. -/
theorem map_fst_add_of_any
    (h : (checks.any fun check => key check.1 = key outcome) = true) :
    (add outcome amount checks).map Prod.fst = checks.map Prod.fst := by
  rw [add, if_pos h, List.map_map]
  refine List.map_congr_left fun check _ => ?_
  rw [Function.comp_apply]
  split <;> rfl

/-- Adding to a counter keeps the counters sorted, each with a key of its own. -/
theorem IsSorted.add (h : metrics.IsSorted) (outcome : String) (amount : Nat) :
    IsSorted { metrics with checks := Metrics.add outcome amount metrics.checks } := by
  obtain ⟨ordered, apart⟩ := h
  by_cases hany : (metrics.checks.any fun check => key check.1 = key outcome) = true
  · have hsame : (Metrics.add outcome amount metrics.checks).map Prod.fst =
        metrics.checks.map Prod.fst := map_fst_add_of_any hany
    refine ⟨hsame.symm ▸ ordered, ?_⟩
    have hkeys : (metrics.checks.map Prod.fst).Pairwise fun a b => key a ≠ key b :=
      List.pairwise_map.mpr apart
    rw [← hsame] at hkeys
    exact (List.pairwise_map (f := Prod.fst) (R := fun a b => key a ≠ key b)).mp hkeys
  · have hnew := key_ne_of_not_any hany
    have hadd : Metrics.add outcome amount metrics.checks =
        insert (outcome, amount) metrics.checks := if_neg hany
    rw [hadd]
    have hfresh : ∀ other ∈ metrics.checks, other.1 ≠ outcome := fun other hother heq =>
      hnew other hother (congrArg key heq)
    refine ⟨pairwise_insert hfresh ordered, ?_⟩
    exact ((perm_insert _ _).pairwise_iff fun hne => hne.symm).mpr
      (List.pairwise_cons.mpr ⟨fun other hother => (hnew other hother).symm, apart⟩)

/-- A counter that is put among others with different keys is found by its key, and the others by
theirs. -/
theorem countIn_insert (new : ∀ other ∈ checks, key other.1 ≠ key check.1) :
    countIn (insert check checks) other =
      if key other = key check.1 then check.2 else countIn checks other := by
  induction checks with
  | nil =>
    by_cases h : key other = key check.1
    · simp [insert, countIn, h]
    · simp [insert, countIn, h, Ne.symm h]
  | cons first rest ih =>
    obtain ⟨hne, hnew⟩ := List.forall_mem_cons.mp new
    rw [insert]
    split
    case isTrue =>
      by_cases h : key other = key check.1
      · simp [countIn, h]
      · simp [countIn, List.find?_cons, h, Ne.symm h]
    case isFalse =>
      by_cases hfirst : key first.1 = key other
      · have hother : key other ≠ key check.1 := hfirst ▸ hne
        simp [countIn, hfirst, hother]
      · simpa [countIn, List.find?_cons, hfirst] using ih hnew

/-- Adding to a counter adds to the counters with its key and to no other. -/
theorem countIn_add :
    countIn (add outcome amount checks) other =
      countIn checks other + if key other = key outcome then amount else 0 := by
  by_cases hany : (checks.any fun check => key check.1 = key outcome) = true
  · have hkey (check : String × Nat) : key (if key check.1 = key outcome then
        (check.1, check.2 + amount) else check).1 = key check.1 := by
      split <;> rfl
    rw [add, if_pos hany, countIn, countIn, List.find?_map]
    simp only [Function.comp_def, hkey]
    cases hfound : checks.find? fun check => key check.1 = key other with
    | none =>
      have hother : key other ≠ key outcome := by
        obtain ⟨check, hmem, hcheck⟩ := List.any_eq_true.mp hany
        intro heq
        have hnone := List.find?_eq_none.mp hfound check hmem
        rw [heq] at hnone
        exact hnone hcheck
      simp [hother]
    | some check =>
      have hcheck : key check.1 = key other := by simpa using List.find?_some hfound
      rw [Option.map_some, Option.elim_some, Option.elim_some, hcheck]
      split <;> rfl
  · have hnew := key_ne_of_not_any hany
    have hadd : add outcome amount checks = insert (outcome, amount) checks := if_neg hany
    rw [hadd, countIn_insert hnew]
    by_cases h : key other = key outcome
    · have hnone : countIn checks other = 0 := by
        rw [countIn, List.find?_eq_none.mpr (by simpa [h] using hnew)]
        rfl
      rw [if_pos h, if_pos h, hnone, Nat.zero_add]
    · rw [if_neg h, if_neg h, Nat.add_zero]

/-- Each of some counters with a key each is found by its key. -/
theorem find?_key_eq_some (apart : checks.Pairwise fun a b => key a.1 ≠ key b.1)
    (hmem : check ∈ checks) :
    checks.find? (fun other => key other.1 = key check.1) = some check := by
  obtain ⟨front, back, rfl⟩ := List.append_of_mem hmem
  have hfront (other) (hother : other ∈ front) : key other.1 ≠ key check.1 :=
    (List.pairwise_append.mp apart).2.2 other hother check List.mem_cons_self
  rw [List.find?_append, List.find?_eq_none.mpr (by simpa using hfront)]
  simp

/-! ## The three operations -/

/-- Nothing recorded is sorted. -/
theorem isSorted_empty : empty.IsSorted := ⟨List.Pairwise.nil, List.Pairwise.nil⟩

/-- Recording a probe that resolved keeps the counters sorted. -/
theorem IsSorted.record (h : metrics.IsSorted) (status : Status) (span : Span) :
    (metrics.record status span).IsSorted :=
  ⟨(h.add status.label 1).ordered, (h.add status.label 1).apart⟩

/-- Recording a probe that was given up keeps the counters sorted. -/
theorem IsSorted.recordCancelled (h : metrics.IsSorted) : metrics.recordCancelled.IsSorted :=
  h.add cancelled 1

/-- Reading a counter keeps the counters sorted. -/
theorem IsSorted.read (h : metrics.IsSorted) (outcome : String) :
    (metrics.read outcome).2.IsSorted :=
  h.add outcome 0

/-- A probe that resolved is counted under the label of its state. -/
theorem count_record (status : Status) (span : Span) (outcome : String) :
    (metrics.record status span).count outcome =
      metrics.count outcome + if key outcome = key status.label then 1 else 0 :=
  countIn_add

/-- A probe that was given up is counted as cancelled. -/
theorem count_recordCancelled (outcome : String) :
    metrics.recordCancelled.count outcome =
      metrics.count outcome + if key outcome = key cancelled then 1 else 0 :=
  countIn_add

/-- Reading a counter changes none. -/
theorem count_read (read : String) (outcome : String) :
    (metrics.read read).2.count outcome = metrics.count outcome := by
  have hadd : (metrics.read read).2.count outcome =
      metrics.count outcome + if key outcome = key read then 0 else 0 := countIn_add
  rwa [ite_self, Nat.add_zero] at hadd

/-! ## Counters and histogram -/

/-- The outcomes under which probes are recorded. -/
def outcomes : List String := ["connected", "error", "unreachable", cancelled]

/-- The label of a status is one of them. -/
theorem label_mem_outcomes (status : Status) : status.label ∈ outcomes := by
  cases status <;> simp [Status.label, outcomes]

/-- Each of them has a key of its own. -/
theorem nodup_key_outcomes : (outcomes.map key).Nodup := by
  decide +kernel

/-- So each of them has a counter of its own. -/
theorem key_inj (h : outcome ∈ outcomes) (hother : other ∈ outcomes) :
    key outcome = key other ↔ outcome = other :=
  ⟨fun heq => List.inj_on_of_nodup_map nodup_key_outcomes h hother heq, congrArg key⟩

/-- The histogram has counted what the counters of the three states have. -/
def IsBalanced (metrics : Metrics) : Prop :=
  metrics.times.count =
    metrics.count "connected" + metrics.count "error" + metrics.count "unreachable"

/-- Nothing recorded is balanced. -/
theorem isBalanced_empty : empty.IsBalanced := rfl

/-- A probe that resolved is counted by the histogram and by one of the three counters. -/
theorem IsBalanced.record (balanced : metrics.IsBalanced) (status : Status) (span : Span) :
    (metrics.record status span).IsBalanced := by
  have htimes : (metrics.record status span).times.count = metrics.times.count + 1 := rfl
  have hkey {outcome : String} (h : outcome ∈ outcomes) :=
    key_inj h (label_mem_outcomes status)
  rw [IsBalanced, htimes, balanced, count_record, count_record, count_record,
    if_congr (hkey (by simp [outcomes])) rfl rfl, if_congr (hkey (by simp [outcomes])) rfl rfl,
    if_congr (hkey (by simp [outcomes])) rfl rfl]
  cases status <;> simp [Status.label] <;> omega

/-- A probe that was given up is counted by none of them. -/
theorem IsBalanced.recordCancelled (balanced : metrics.IsBalanced) :
    metrics.recordCancelled.IsBalanced := by
  have htimes : metrics.recordCancelled.times = metrics.times := rfl
  have hkey {outcome : String} (h : outcome ∈ outcomes) :=
    key_inj h (by simp [outcomes] : cancelled ∈ outcomes)
  rw [IsBalanced, htimes, balanced, count_recordCancelled, count_recordCancelled,
    count_recordCancelled, if_congr (hkey (by simp [outcomes])) rfl rfl,
    if_congr (hkey (by simp [outcomes])) rfl rfl, if_congr (hkey (by simp [outcomes])) rfl rfl]
  simp [cancelled]

/-- Reading changes none of them. -/
theorem IsBalanced.read (balanced : metrics.IsBalanced) (outcome : String) :
    (metrics.read outcome).2.IsBalanced := by
  have htimes : (metrics.read outcome).2.times = metrics.times := rfl
  rw [IsBalanced, htimes, balanced, count_read, count_read, count_read]

end HealthPanel.Metrics
