import HealthPanel.Proofs.Metrics
import Mathlib.Data.List.Induction

/-!
# What calls leave in the metrics

Metrics are what a sequence of calls has made of nothing. Each call is either a record, which adds
one to one counter and may add a time to the histogram, or it only looks, and all that looking at a
counter may do is to show it. So counters and histogram tell how many calls recorded what. Outcomes
of one key have one counter, which bears the name of the first of them. Where the outcomes have keys
of their own, each has its counter.
-/

namespace HealthPanel.Metrics

/-- What is asked of metrics. -/
inductive Call
  | record (status : Status) (span : Span)
  | recordCancelled
  | read (outcome : String)
  | gather

namespace Call

/-- The outcome that a call records. -/
def recorded? : Call → Option String
  | record status _ => some status.label
  | recordCancelled => some cancelled
  | read _ | gather => none

/-- The outcome that a call shows from then on, because it records or reads it. -/
def shown? : Call → Option String
  | read outcome => some outcome
  | call => call.recorded?

/-- A call shows what it records. -/
theorem shown?_of_recorded? {call : Call} {outcome : String} (h : call.recorded? = some outcome) :
    call.shown? = some outcome := by
  cases call with
  | record | recordCancelled | gather => exact h
  | read => cases h

/-- The time that a call records. -/
def span? : Call → Option Span
  | record _ span => some span
  | recordCancelled | read _ | gather => none

end Call

/-- The metrics after a call. -/
def perform (metrics : Metrics) : Call → Metrics
  | .record status span => metrics.record status span
  | .recordCancelled => metrics.recordCancelled
  | .read outcome => (metrics.read outcome).2
  | .gather => metrics

/-- The metrics after some calls, nothing being recorded before them. -/
def ofCalls (calls : List Call) : Metrics :=
  calls.foldl perform .empty

/-- The outcomes that calls record, one for each record. -/
def recordedIn (calls : List Call) : List String :=
  calls.filterMap Call.recorded?

/-- The outcomes that calls show, one for each call that shows one. -/
def shownIn (calls : List Call) : List String :=
  calls.filterMap Call.shown?

/-- The first outcome with some key that calls show. -/
def firstShown? (calls : List Call) (outcome : String) : Option String :=
  (shownIn calls).find? fun other => key other = key outcome

/-- No two outcomes that calls show have one key. -/
def AreApart (calls : List Call) : Prop :=
  ∀ outcome ∈ shownIn calls, ∀ other ∈ shownIn calls, key outcome = key other → outcome = other

/-- The times that calls record. -/
def spansIn (calls : List Call) : List Span :=
  calls.filterMap Call.span?

/-- Calls among which some more only read. -/
inductive ReadsInserted : List Call → List Call → Prop
  | nil : ReadsInserted [] []
  | keep (call : Call) {calls more : List Call} (rest : ReadsInserted calls more) :
    ReadsInserted (call :: calls) (call :: more)
  | insert (outcome : String) {calls more : List Call} (rest : ReadsInserted calls more) :
    ReadsInserted calls (.read outcome :: more)

variable {metrics : Metrics} {call : Call} {calls more : List Call} {outcome other : String}
  {amount n : Nat} {checks : List (String × Nat)}

/-! ## One call -/

/-- After adding to a counter all counters are there that were there before, and one of the outcome
if there was none with its key. -/
theorem mem_add_iff :
    other ∈ (add outcome amount checks).map Prod.fst ↔
      other ∈ checks.map Prod.fst ∨
        other = outcome ∧ ∀ name ∈ checks.map Prod.fst, key name ≠ key outcome := by
  by_cases hany : (checks.any fun check => key check.1 = key outcome) = true
  · obtain ⟨check, hmem, hcheck⟩ := List.any_eq_true.mp hany
    have hthere : ¬∀ name ∈ checks.map Prod.fst, key name ≠ key outcome := fun hnone =>
      hnone check.1 (List.mem_map_of_mem hmem) (of_decide_eq_true hcheck)
    rw [map_fst_add_of_any hany, or_iff_left fun h => hthere h.2]
  · have hnone : ∀ name ∈ checks.map Prod.fst, key name ≠ key outcome :=
      List.forall_mem_map.mpr (key_ne_of_not_any hany)
    have hadd : add outcome amount checks = insert (outcome, amount) checks := if_neg hany
    rw [hadd, ((perm_insert _ _).map Prod.fst).mem_iff, List.map_cons, List.mem_cons, or_comm,
      and_iff_left hnone]

/-- A call keeps the counters sorted. -/
theorem IsSorted.perform (h : metrics.IsSorted) (call : Call) :
    (metrics.perform call).IsSorted := by
  cases call with
  | record status span => exact h.record status span
  | recordCancelled => exact h.recordCancelled
  | read outcome => exact h.read outcome
  | gather => exact h

/-- A call adds to the counter of the outcome that it records, and to no other. -/
theorem count_perform (call : Call) (outcome : String) :
    (metrics.perform call).count outcome =
      metrics.count outcome +
        call.recorded?.toList.countP fun other => key other = key outcome := by
  have hone (label : String) : [label].countP (fun other => key other = key outcome) =
      if key outcome = key label then 1 else 0 := by
    simp [List.countP_singleton, eq_comm]
  cases call with
  | record status span => exact (count_record status span outcome).trans (by rw [← hone]; rfl)
  | recordCancelled => exact (count_recordCancelled outcome).trans (by rw [← hone]; rfl)
  | read read => exact count_read read outcome
  | gather => rfl

/-- The outcomes that have a counter after a call are those that had one before, and the one that it
shows unless there was a counter with its key. -/
theorem mem_perform_iff :
    outcome ∈ (metrics.perform call).checks.map Prod.fst ↔
      outcome ∈ metrics.checks.map Prod.fst ∨
        call.shown? = some outcome ∧
          ∀ name ∈ metrics.checks.map Prod.fst, key name ≠ key outcome := by
  have hshown (shown : String) : (outcome = shown ∧
      ∀ name ∈ metrics.checks.map Prod.fst, key name ≠ key shown) ↔
        some shown = some outcome ∧
          ∀ name ∈ metrics.checks.map Prod.fst, key name ≠ key outcome := by
    rw [Option.some.injEq, eq_comm]
    exact and_congr_right fun heq => by rw [heq]
  cases call with
  | record | recordCancelled | read => exact mem_add_iff.trans (or_congr_right (hshown _))
  | gather => simp [perform, Call.shown?, Call.recorded?]

/-- A call adds the time that it records to the histogram, and nothing else. -/
theorem times_perform (metrics : Metrics) (call : Call) :
    (metrics.perform call).times = call.span?.toList.foldl Histogram.observe metrics.times := by
  cases call <;> rfl

/-! ## All calls -/

/-- The metrics after one more call. -/
theorem ofCalls_concat : ofCalls (calls ++ [call]) = (ofCalls calls).perform call := by
  simp [ofCalls]

/-- What is recorded when one more call is made. -/
theorem recordedIn_concat :
    recordedIn (calls ++ [call]) = recordedIn calls ++ call.recorded?.toList := by
  cases hrecorded : call.recorded? <;> simp [recordedIn, hrecorded]

/-- The times that are recorded when one more call is made. -/
theorem spansIn_concat : spansIn (calls ++ [call]) = spansIn calls ++ call.span?.toList := by
  cases hspan : call.span? <;> simp [spansIn, hspan]

/-- The first outcome with a key stays the first when one more call is made. -/
theorem firstShown?_concat :
    firstShown? (calls ++ [call]) outcome =
      (firstShown? calls outcome).or
        (call.shown?.toList.find? fun other => key other = key outcome) := by
  cases hshown : call.shown? <;> simp [firstShown?, shownIn, hshown]

/-- What calls show has the key that it is the first with. -/
theorem key_of_firstShown? (h : firstShown? calls outcome = some other) :
    key other = key outcome := by
  simpa using List.find?_some h

/-- Calls keep the counters sorted. -/
theorem isSorted_ofCalls (calls : List Call) : (ofCalls calls).IsSorted := by
  induction calls using List.reverseRecOn with
  | nil => exact isSorted_empty
  | append_singleton calls call ih => exact ofCalls_concat ▸ ih.perform call

/-- A counter tells how many calls recorded an outcome with its key. -/
theorem count_ofCalls (calls : List Call) (outcome : String) :
    (ofCalls calls).count outcome =
      (recordedIn calls).countP fun other => key other = key outcome := by
  induction calls using List.reverseRecOn with
  | nil => rfl
  | append_singleton calls call ih =>
    rw [ofCalls_concat, count_perform, ih, recordedIn_concat, List.countP_append]

/-- The outcomes that have a counter are those that some call shows, each the first with its key. -/
theorem mem_ofCalls_iff :
    outcome ∈ (ofCalls calls).checks.map Prod.fst ↔ firstShown? calls outcome = some outcome := by
  induction calls using List.reverseRecOn generalizing outcome with
  | nil => simp [ofCalls, empty, firstShown?, shownIn]
  | append_singleton calls call ih =>
    -- a counter with the key is there as soon as an outcome with the key has been shown
    have hnone : (∀ name ∈ (ofCalls calls).checks.map Prod.fst, key name ≠ key outcome) ↔
        firstShown? calls outcome = none := by
      constructor
      · intro hnew
        by_contra hsome
        obtain ⟨other, hother⟩ := Option.ne_none_iff_exists'.mp hsome
        have hkey := key_of_firstShown? hother
        refine hnew other (ih.mpr ?_) hkey
        rwa [firstShown?, hkey]
      · intro hnone name hname hkey
        have hfirst := ih.mp hname
        rw [firstShown?, hkey] at hfirst
        exact Option.some_ne_none _ (hfirst.symm.trans hnone)
    rw [ofCalls_concat, mem_perform_iff, hnone, ih, firstShown?_concat]
    cases hfirst : firstShown? calls outcome with
    | some other => simp
    | none =>
      cases hshown : call.shown? with
      | none => simp
      | some shown =>
        by_cases hkey : key shown = key outcome
        · simp [hkey]
        · simp [hkey, ne_of_apply_ne key hkey]

/-- Each counter is named by the first outcome with its key that was shown, and tells how many calls
recorded an outcome with its key. -/
theorem mem_checks_ofCalls_iff :
    (outcome, n) ∈ (ofCalls calls).checks ↔
      firstShown? calls outcome = some outcome ∧
        n = (recordedIn calls).countP fun other => key other = key outcome := by
  have hapart := (isSorted_ofCalls calls).apart
  rw [← mem_ofCalls_iff, ← count_ofCalls, count]
  constructor
  · intro h
    exact ⟨List.mem_map_of_mem h, by rw [find?_key_eq_some hapart h]; rfl⟩
  · rintro ⟨h, rfl⟩
    obtain ⟨⟨name, m⟩, hmem, rfl⟩ := List.mem_map.mp h
    rwa [find?_key_eq_some hapart hmem]

/-- What is recorded is shown. -/
theorem recordedIn_subset_shownIn : recordedIn calls ⊆ shownIn calls := by
  intro outcome hmem
  obtain ⟨call, hcall, hrecords⟩ := List.mem_filterMap.mp hmem
  exact List.mem_filterMap.mpr ⟨call, hcall, call.shown?_of_recorded? hrecords⟩

/-- Where the outcomes have keys of their own, each is the first with its key, and the records of
its key are its own. -/
theorem AreApart.mem_checks_ofCalls_iff (apart : AreApart calls) :
    (outcome, n) ∈ (ofCalls calls).checks ↔
      outcome ∈ shownIn calls ∧ n = (recordedIn calls).count outcome := by
  have hfirst : firstShown? calls outcome = some outcome ↔ outcome ∈ shownIn calls := by
    refine ⟨List.mem_of_find?_eq_some, fun hmem => ?_⟩
    have hsome : (firstShown? calls outcome).isSome :=
      List.find?_isSome.mpr ⟨outcome, hmem, decide_eq_true rfl⟩
    obtain ⟨other, hother⟩ := Option.isSome_iff_exists.mp hsome
    have hkey := key_of_firstShown? hother
    rw [hother, apart other (List.mem_of_find?_eq_some hother) outcome hmem hkey]
  rw [Metrics.mem_checks_ofCalls_iff, hfirst, List.count]
  refine and_congr_right fun hmem => ?_
  have hcount : (recordedIn calls).countP (fun other => key other = key outcome) =
      (recordedIn calls).countP (· == outcome) := by
    refine List.countP_congr fun other hother => ?_
    have hshown := recordedIn_subset_shownIn hother
    simpa using ⟨apart other hshown outcome hmem, congrArg key⟩
  rw [hcount]

/-- The histogram after some times: how many there were, and how many of them were at most each
bound. -/
theorem foldl_observe (spans : List Span) :
    (spans.foldl Histogram.observe .empty).count = spans.length ∧
      (spans.foldl Histogram.observe .empty).buckets =
        Histogram.bounds.map fun bound => spans.countP (·.inNanoseconds ≤ bound) := by
  induction spans using List.reverseRecOn with
  | nil => exact ⟨rfl, rfl⟩
  | append_singleton spans span ih =>
    obtain ⟨hcount, hbuckets⟩ := ih
    rw [List.foldl_concat, Histogram.observe, hcount, hbuckets, List.zipWith_map_right,
      List.zipWith_self]
    refine ⟨by simp, List.map_congr_left fun bound _ => ?_⟩
    rw [List.countP_append, List.countP_singleton]
    split <;> simp_all

/-- The histogram after some calls is that of the times they record. -/
theorem times_ofCalls (calls : List Call) :
    (ofCalls calls).times = (spansIn calls).foldl Histogram.observe .empty := by
  induction calls using List.reverseRecOn with
  | nil => rfl
  | append_singleton calls call ih =>
    rw [ofCalls_concat, times_perform, ih, spansIn_concat, List.foldl_append]

/-! ## Reads among the calls -/

/-- Reads that are inserted record nothing, and all that was shown is shown still. -/
theorem ReadsInserted.records (h : ReadsInserted calls more) :
    recordedIn more = recordedIn calls ∧ spansIn more = spansIn calls ∧
      shownIn calls ⊆ shownIn more := by
  induction h with
  | nil => exact ⟨rfl, rfl, List.Subset.refl _⟩
  | keep call _ ih =>
    obtain ⟨hrecorded, hspans, hsubset⟩ := ih
    simp only [recordedIn, spansIn, shownIn, List.filterMap_cons] at *
    refine ⟨by rw [hrecorded], by rw [hspans], ?_⟩
    split
    · exact hsubset
    · exact List.cons_subset_cons _ hsubset
  | insert outcome _ ih =>
    obtain ⟨hrecorded, hspans, hsubset⟩ := ih
    exact ⟨hrecorded, hspans, List.subset_cons_of_subset _ hsubset⟩

/-- Where outcomes have keys of their own, they have so without some reads. -/
theorem AreApart.of_readsInserted (apart : AreApart more) (h : ReadsInserted calls more) :
    AreApart calls :=
  fun outcome houtcome other hother =>
    apart outcome (h.records.2.2 houtcome) other (h.records.2.2 hother)

end HealthPanel.Metrics
