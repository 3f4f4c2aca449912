import HealthPanel.Proofs.Panel.Counters
import Mathlib.Data.Set.Card

/-!
# Every activation is counted once

A task ends in one of three ways: it gives up, it finds the panel inactive, or it has written its
status. What it has added to the counters by then is read off its phase and its history: one to
the counter of what became of it, and nothing if it found the panel inactive.
-/

namespace HealthPanel.Panel

variable {panel later : Panel} {action : Action} {task : Nat} {outcome : String}

/-! ## The history of one task -/

/-- The check of a task is given up before it has resolved. -/
def Cancels (task : Nat) (panel : Panel) (action : Action) : Prop :=
  (∃ seen, panel.phase? task = some (.spawned seen) ∨ panel.phase? task = some (.probing seen)) ∧
    (panel.step action).phase? task = some .interrupted

/-- A task whose check has resolved comes to write, and the panel is inactive. -/
def FindsInactive (task : Nat) (panel : Panel) (action : Action) : Prop :=
  panel.isActive = false ∧ (∃ status, panel.phase? task = some (.resolved status)) ∧
    ∃ now, action = .apply task now

/-- Whether a task has not ended and has not given up, or does not exist yet. -/
def IsPending : Option Phase → Prop
  | some .interrupted | some (.ended _) => False
  | _ => True

/-- What a task in some phase has gone through, and what its steps have added to the counters:
`cancelled` and `discarded` say whether it gave up and whether it found the panel inactive. -/
inductive Accounted (cancelled discarded : Prop) (credit : String → Nat) : Option Phase → Prop
  | pending {phase : Option Phase} (open_ : IsPending phase) (hc : ¬cancelled) (hd : ¬discarded)
      (hn : ∀ outcome, credit outcome = 0) : Accounted cancelled discarded credit phase
  | interrupted (hc : cancelled) (hd : ¬discarded) (hn : ∀ outcome, credit outcome = 0) :
      Accounted cancelled discarded credit (some .interrupted)
  | cancelled (hc : cancelled) (hd : ¬discarded)
      (hn : ∀ outcome, credit outcome =
        if Metrics.key outcome = Metrics.key Metrics.cancelled then 1 else 0) :
      Accounted cancelled discarded credit (some (.ended none))
  | discarded (hc : ¬cancelled) (hd : discarded) (hn : ∀ outcome, credit outcome = 0) :
      Accounted cancelled discarded credit (some (.ended none))
  | counted {status : Status} (hc : ¬cancelled) (hd : ¬discarded)
      (hn : ∀ outcome, credit outcome =
        if Metrics.key outcome = Metrics.key status.label then 1 else 0) :
      Accounted cancelled discarded credit (some (.ended (some status)))

section

variable (rests : ∀ old new, panel.tasks[task]? = some old → ¬TaskMove panel task action old new)
include rests

/-- An action that does not take a task on adds nothing for it. -/
theorem share_eq_zero (outcome : String) : panel.share outcome task action = 0 := by
  by_contra hshare
  cases action with
  | record other elapsed =>
    simp only [share, Action.task?, Option.some.injEq] at hshare
    split at hshare
    case isFalse => exact hshare rfl
    case isTrue hsame =>
      subst hsame
      simp only [gain, increment] at hshare
      split at hshare
      case h_1 status applied =>
        obtain ⟨asked, hentry⟩ := phase?_eq_some_iff.mp applied
        exact rests _ _ hentry .recordCheck
      case h_2 interrupted =>
        obtain ⟨asked, hentry⟩ := phase?_eq_some_iff.mp interrupted
        exact rests _ _ hentry .recordCancelled
      case h_3 => exact hshare rfl
  | _ => simp [share, gain] at hshare

/-- An action that does not take a task on does not make it give up. -/
theorem not_cancels : ¬Cancels task panel action := by
  intro hcancels
  obtain ⟨⟨seen, hbefore⟩, hafter⟩ := hcancels
  have hchange := (transition_step panel action).taskChange task
  rw [phase?] at hafter
  generalize (panel.step action).tasks[task]? = entry at hchange hafter
  cases hchange with
  | same =>
    rw [← phase?] at hafter
    rcases hbefore with hbefore | hbefore <;> simp [hafter] at hbefore
  | new => simp at hafter
  | moved hold move => exact rests _ _ hold move

/-- An action that does not take a task on does not bring it to find the panel inactive. -/
theorem not_findsInactive : ¬FindsInactive task panel action := by
  intro hfinds
  obtain ⟨inactive, ⟨status, resolved⟩, now, rfl⟩ := hfinds
  obtain ⟨asked, hentry⟩ := phase?_eq_some_iff.mp resolved
  exact rests _ _ hentry (.discard inactive)

end

/-- What adds nothing to the history of a task keeps its account. -/
theorem Accounted.extend {cancelled discarded cancels finds : Prop} {credit share : String → Nat}
    {phase : Option Phase} (h : Accounted cancelled discarded credit phase) (hc : ¬cancels)
    (hd : ¬finds) (hn : ∀ outcome, share outcome = 0) :
    Accounted (cancelled ∨ cancels) (discarded ∨ finds)
      (fun outcome => credit outcome + share outcome) phase := by
  simpa only [hc, hd, hn, or_false, Nat.add_zero] using h

/-- A move takes the account of a task on. Each move starts in one phase, and so finds one kind
of account. -/
theorem Accounted.move {cancelled discarded : Prop} {credit : String → Nat} {old new : Task}
    (h : Accounted cancelled discarded credit (some old.phase))
    (hold : panel.tasks[task]? = some old) (move : TaskMove panel task action old new) :
    Accounted (cancelled ∨ Cancels task panel action) (discarded ∨ FindsInactive task panel action)
      (fun outcome => credit outcome + panel.share outcome task action) (some new.phase) := by
  have hnew := move.getElem?_step hold
  have hbefore : panel.phase? task = some old.phase := by simp [phase?, hold]
  have hafter : (panel.step action).phase? task = some new.phase := by simp [phase?, hnew]
  have hcancels : Cancels task panel action ↔
      (∃ seen, old.phase = .spawned seen ∨ old.phase = .probing seen) ∧
        new.phase = .interrupted := by
    simp [Cancels, hbefore, hafter]
  cases move with
  | refuse | giveUp =>
    cases h with
    | pending _ hc hd hn =>
      refine .interrupted (.inr (hcancels.mpr (by simp))) ?_ (by simp [share, gain, hn])
      simpa [FindsInactive] using hd
  | ask | wait | resolve =>
    cases h with
    | pending _ hc hd hn =>
      exact Accounted.extend (.pending trivial hc hd hn) (by simp [hcancels])
        (by simp [FindsInactive]) (by simp [share, gain])
  | write active =>
    cases h with
    | pending _ hc hd hn =>
      exact Accounted.extend (.pending trivial hc hd hn) (by simp [hcancels])
        (by simp [FindsInactive, active]) (by simp [share, gain])
  | discard inactive =>
    cases h with
    | pending _ hc hd hn =>
      refine .discarded (by simpa [hcancels] using hc) (.inr ?_) (by simp [share, gain, hn])
      exact ⟨inactive, ⟨_, hbefore⟩, _, rfl⟩
  | recordCheck =>
    cases h with
    | pending _ hc hd hn =>
      refine .counted (by simpa [hcancels] using hc) (by simpa [FindsInactive] using hd) ?_
      simp [share, gain, Action.task?, hbefore, increment, hn]
  | recordCancelled =>
    cases h with
    | interrupted hc hd hn =>
      refine .cancelled (.inl hc) (by simpa [FindsInactive] using hd) ?_
      simp [share, gain, Action.task?, hbefore, increment, hn]
    | pending hopen => exact absurd hopen (by simp [IsPending])

/-- A step keeps the account of a task. -/
theorem Accounted.step {cancelled discarded : Prop} {credit : String → Nat}
    (h : Accounted cancelled discarded credit (panel.phase? task)) (action : Action) :
    Accounted (cancelled ∨ Cancels task panel action) (discarded ∨ FindsInactive task panel action)
      (fun outcome => credit outcome + panel.share outcome task action)
      ((panel.step action).phase? task) := by
  by_cases hmoves : ∃ old new, panel.tasks[task]? = some old ∧ TaskMove panel task action old new
  · obtain ⟨old, new, hold, move⟩ := hmoves
    have hbefore : panel.phase? task = some old.phase := by simp [phase?, hold]
    have hafter : (panel.step action).phase? task = some new.phase := by
      simp [phase?, move.getElem?_step hold]
    rw [hbefore] at h
    rw [hafter]
    exact h.move hold move
  · have hrests : ∀ old new, panel.tasks[task]? = some old →
        ¬TaskMove panel task action old new :=
      fun old new hold move => hmoves ⟨old, new, hold, move⟩
    have hkept : Accounted cancelled discarded credit ((panel.step action).phase? task) := by
      have hchange := (transition_step panel action).taskChange task
      simp only [phase?] at h ⊢
      generalize (panel.step action).tasks[task]? = entry at hchange
      cases hchange with
      | same => exact h
      | new fresh =>
        rw [List.getElem?_eq_none (Nat.le_of_eq fresh)] at h
        cases h with
        | pending _ hc hd hn => exact .pending trivial hc hd hn
      | moved hold move => exact absurd move (hrests _ _ hold)
    exact hkept.extend (not_cancels hrests) (not_findsInactive hrests) (share_eq_zero hrests)

/-- In every run the account of a task that was pending at first is right. -/
theorem accounted_run_of_pending (metered : panel.IsMetered)
    (pending : IsPending (panel.phase? task)) (actions : List Action) :
    Accounted (panel.Occurs (Cancels task) actions) (panel.Occurs (FindsInactive task) actions)
      (fun outcome => panel.credit outcome task actions) ((panel.run actions).phase? task) := by
  induction actions using List.reverseRecOn with
  | nil => exact .pending pending not_occurs_nil not_occurs_nil fun _ => rfl
  | append_singleton actions last ih =>
    simp only [occurs_concat, run_concat, credit_concat metered]
    exact ih.step last

/-- In every run of a fresh panel the account of every task is right. -/
theorem accounted_run (actions : List Action) (task : Nat) :
    Accounted ((initial (some .empty)).Occurs (Cancels task) actions)
      ((initial (some .empty)).Occurs (FindsInactive task) actions)
      (fun outcome => (initial (some .empty)).credit outcome task actions)
      (((initial (some .empty)).run actions).phase? task) :=
  accounted_run_of_pending isMetered_initial trivial actions

/-! ## Tasks that have all ended -/

/-- The counter of checks that were given up is that of no status. -/
theorem key_label_ne_cancelled (status : Status) :
    Metrics.key status.label ≠ Metrics.key Metrics.cancelled := by
  intro heq
  have hlabel := (Metrics.key_inj (Metrics.label_mem_outcomes status)
    (by simp [Metrics.outcomes])).mp heq
  cases status <;> simp [Status.label, Metrics.cancelled] at hlabel

/-- An ended task has added one to the counter of the status it wrote. -/
theorem Accounted.credit_label {cancelled discarded : Prop} {credit : String → Nat}
    {result : Option Status} (h : Accounted cancelled discarded credit (some (.ended result)))
    (known : outcome ∈ Metrics.outcomes) (hne : outcome ≠ Metrics.cancelled) :
    ((∃ status, result = some status ∧ status.label = outcome) → credit outcome = 1) ∧
      (¬(∃ status, result = some status ∧ status.label = outcome) → credit outcome = 0) := by
  cases h with
  | pending hopen => exact hopen.elim
  | cancelled _ _ hn =>
    have hkey := (Metrics.key_inj known (by simp [Metrics.outcomes])).not.mpr hne
    simp [hn, hkey]
  | discarded _ _ hn => simp [hn]
  | @counted status _ _ hn =>
    simp [hn, Metrics.key_inj known (Metrics.label_mem_outcomes status), eq_comm]

/-- An ended task has added one to the counter of checks that were given up if its own was. -/
theorem Accounted.credit_cancelled {cancelled discarded : Prop} {credit : String → Nat}
    {result : Option Status} (h : Accounted cancelled discarded credit (some (.ended result))) :
    (cancelled → credit Metrics.cancelled = 1) ∧ (¬cancelled → credit Metrics.cancelled = 0) := by
  cases h with
  | pending hopen => exact hopen.elim
  | cancelled hc _ hn => simp [hc, hn]
  | discarded hc _ hn => simp [hc, hn]
  | @counted status hc _ hn => simp [hc, hn, (key_label_ne_cancelled status).symm]

/-- An ended task has added at most one, to at most one counter. -/
theorem Accounted.credit_le {cancelled discarded : Prop} {credit : String → Nat}
    {result : Option Status} (h : Accounted cancelled discarded credit (some (.ended result))) :
    (∀ outcome, credit outcome ≤ 1) ∧
      ∀ outcome other, 0 < credit outcome → 0 < credit other →
        Metrics.key outcome = Metrics.key other := by
  cases h with
  | pending hopen => exact hopen.elim
  | cancelled _ _ hn => exact ⟨by grind, by grind⟩
  | discarded _ _ hn => exact ⟨by grind, by grind⟩
  | counted _ _ hn => exact ⟨by grind, by grind⟩

/-- An ended task has added to a counter unless it found the panel inactive. -/
theorem Accounted.exists_credit_iff {cancelled discarded : Prop} {credit : String → Nat}
    {result : Option Status} (h : Accounted cancelled discarded credit (some (.ended result))) :
    (∃ outcome, credit outcome = 1) ↔ ¬discarded := by
  cases h with
  | pending hopen => exact hopen.elim
  | cancelled _ hd hn => exact iff_of_true ⟨_, by rw [hn, if_pos rfl]⟩ hd
  | discarded _ hd hn => simp [hd, hn]
  | counted _ hd hn => exact iff_of_true ⟨_, by rw [hn, if_pos rfl]⟩ hd

/-- A task that gave up exists. -/
theorem lt_length_of_cancels {actions : List Action}
    (h : (initial (some .empty)).Occurs (Cancels task) actions) :
    task < ((initial (some .empty)).run actions).tasks.length := by
  by_contra hout
  have haccount := accounted_run actions task
  rw [phase?, List.getElem?_eq_none (not_lt.mp hout)] at haccount
  cases haccount with
  | pending _ hc => exact hc h

/-- A task that has a result exists. -/
theorem lt_length_of_result? {result : Option Status} (h : panel.result? task = some result) :
    task < panel.tasks.length := by
  obtain ⟨asked, hentry⟩ := phase?_eq_some_iff.mp (result?_eq_some_iff.mp h)
  exact (List.getElem?_eq_some_iff.mp hentry).1

/-- Fresh counters show what the tasks have added. -/
theorem counter_eq_sum_credit (actions : List Action) (outcome : String) :
    ((initial (some .empty)).run actions).counter outcome =
      ∑ task ∈ Finset.range ((initial (some .empty)).run actions).tasks.length,
        (initial (some .empty)).credit outcome task actions := by
  rw [counter_run_eq_sum_credit isMetered_initial outcome actions (Nat.le_refl _)]
  exact Nat.zero_add _

/-- Where the tasks of a kind add one each and the others nothing, the counter grows by how many
are of that kind. -/
theorem counter_run_eq_add_ncard (metered : panel.IsMetered) {actions : List Action}
    {kind : Nat → Prop} (hbound : ∀ task, kind task → task < (panel.run actions).tasks.length)
    (hcredit : ∀ task, task < (panel.run actions).tasks.length →
      (kind task → panel.credit outcome task actions = 1) ∧
        (¬kind task → panel.credit outcome task actions = 0)) :
    (panel.run actions).counter outcome = panel.counter outcome + {task | kind task}.ncard := by
  classical
  have hset : {task | kind task} =
      ↑((Finset.range (panel.run actions).tasks.length).filter kind) := by
    ext task
    simpa using hbound task
  rw [hset, Set.ncard_coe_finset, Finset.card_filter,
    counter_run_eq_sum_credit metered outcome actions (Nat.le_refl _)]
  refine congrArg (panel.counter outcome + ·) (Finset.sum_congr rfl ?_)
  intro task htask
  obtain ⟨hone, hzero⟩ := hcredit task (Finset.mem_range.mp htask)
  by_cases h : kind task
  · rw [hone h, if_pos h]
  · rw [hzero h, if_neg h]

/-- Where the tasks of a kind have added one each and the others nothing, a fresh counter shows
how many are of that kind. -/
theorem counter_eq_ncard {actions : List Action} {kind : Nat → Prop}
    (hbound : ∀ task, kind task → task < ((initial (some .empty)).run actions).tasks.length)
    (hcredit : ∀ task, task < ((initial (some .empty)).run actions).tasks.length →
      (kind task → (initial (some .empty)).credit outcome task actions = 1) ∧
        (¬kind task → (initial (some .empty)).credit outcome task actions = 0)) :
    ((initial (some .empty)).run actions).counter outcome = {task | kind task}.ncard :=
  (counter_run_eq_add_ncard isMetered_initial hbound hcredit).trans (Nat.zero_add _)

/-- Every activation is counted once. When all tasks have ended, each of the three counters shows
how many tasks ended with a status of its label, the histogram has counted as many as the three
together, and the counter of checks that were given up shows how many gave up before they
resolved. The counters are made up of what the single tasks have added: each at most one, to one
counter, and none exactly when it had resolved and then found the panel inactive. Outcomes have one
counter if they have one key, and the four that tasks record have four. -/
theorem outcomes_accounted (actions : List Action) :
    let start := initial (some .empty)
    let panel := start.run actions
    (∀ task, task < panel.tasks.length → (panel.result? task).isSome) →
      (∀ outcome, outcome ∈ ["connected", "error", "unreachable"] →
        panel.counter outcome =
          {task | ∃ status, panel.result? task = some (some status) ∧
            status.label = outcome}.ncard) ∧
      panel.observed =
        panel.counter "connected" + panel.counter "error" + panel.counter "unreachable" ∧
      panel.counter Metrics.cancelled = {task | start.Occurs (Cancels task) actions}.ncard ∧
      (∀ outcome, panel.counter outcome =
        ∑ task ∈ Finset.range panel.tasks.length, start.credit outcome task actions) ∧
      (Metrics.outcomes.map Metrics.key).Nodup ∧
      ∀ task, task < panel.tasks.length →
        (∀ outcome, start.credit outcome task actions ≤ 1) ∧
        (∀ outcome other, 0 < start.credit outcome task actions →
          0 < start.credit other task actions → Metrics.key outcome = Metrics.key other) ∧
        ((∃ outcome, start.credit outcome task actions = 1) ↔
          ¬ start.Occurs (FindsInactive task) actions) := by
  intro start panel settled
  have haccount : ∀ task, task < panel.tasks.length → ∃ result,
      panel.result? task = some result ∧
        Accounted (start.Occurs (Cancels task) actions) (start.Occurs (FindsInactive task) actions)
          (fun outcome => start.credit outcome task actions) (some (.ended result)) := by
    intro task htask
    obtain ⟨result, hresult⟩ := Option.isSome_iff_exists.mp (settled task htask)
    have haccounted := accounted_run actions task
    rw [result?_eq_some_iff.mp hresult] at haccounted
    exact ⟨result, hresult, haccounted⟩
  refine ⟨?_, ?_, ?_, ?_, Metrics.nodup_key_outcomes, ?_⟩
  · intro outcome houtcome
    have hne : outcome ≠ Metrics.cancelled := by
      intro heq
      subst heq
      simp [Metrics.cancelled] at houtcome
    have hknown : outcome ∈ Metrics.outcomes :=
      List.mem_append_left [Metrics.cancelled] houtcome
    refine counter_eq_ncard ?_ ?_
    · intro task hparts
      obtain ⟨status, hresult, -⟩ := hparts
      exact lt_length_of_result? hresult
    · intro task htask
      obtain ⟨result, hresult, haccounted⟩ := haccount task htask
      simpa [panel, start, hresult] using haccounted.credit_label hknown hne
  · exact (run_induction Transition.isMetered isMetered_initial actions).observed_eq
  · refine counter_eq_ncard (fun _ => lt_length_of_cancels) ?_
    intro task htask
    obtain ⟨result, -, haccounted⟩ := haccount task htask
    exact haccounted.credit_cancelled
  · exact counter_eq_sum_credit actions
  · intro task htask
    obtain ⟨result, -, haccounted⟩ := haccount task htask
    exact ⟨haccounted.credit_le.1, haccounted.credit_le.2, haccounted.exists_credit_iff⟩

/-- One activation writes its status; a second has resolved when the panel is torn down, and a
third starts too late. -/
def mixed : List Action :=
  .activate :: settle 0 .error ⟨0, 0⟩ (.ofSeconds 0)
    ++ [.activate, .start 1, .resolve 1 .unreachable, .teardown, .raise 0, .activate]
    ++ [.apply 1 ⟨0, 0⟩, .start 2, .record 2 (.ofSeconds 0)]

/-- The first is counted under its label, the second nowhere, and the third as given up. -/
theorem outcomes_accounted_mixed :
    let start := initial (some .empty)
    let panel := start.run mixed
    (∀ task, task < panel.tasks.length → (panel.result? task).isSome) ∧
      {task | ∃ status, panel.result? task = some (some status) ∧
        status.label = "error"}.ncard = 1 ∧
      {task | start.Occurs (Cancels task) mixed}.ncard = 1 ∧ panel.observed = 1 ∧
      start.Occurs (FindsInactive 1) mixed ∧ ¬∃ outcome, start.credit outcome 1 mixed = 1 := by
  intro start panel
  have hsettled : ∀ task, task < panel.tasks.length → (panel.result? task).isSome := by decide
  obtain ⟨hlabels, hobserved, hcancelled, -, -, htasks⟩ := outcomes_accounted mixed hsettled
  have herror : panel.counter "error" = 1 := by decide
  have hgiven : panel.counter Metrics.cancelled = 1 := by decide
  have hinactive : (start.run (mixed.take 11)).isActive = false := by decide
  have hresolved : (start.run (mixed.take 11)).phase? 1 = some (.resolved .unreachable) := by
    simp [start, mixed, settle, run, step, startTask, applyTask, phase?, setPhase, initial,
      beginTeardown, raiseSignal, Signal.after, Signal.initial]
  have hlate : start.Occurs (FindsInactive 1) mixed :=
    ⟨mixed.take 11, .apply 1 ⟨0, 0⟩, mixed.drop 12, rfl, hinactive, ⟨_, hresolved⟩, ⟨_, rfl⟩⟩
  have htimes : panel.observed = 1 := by
    rw [hobserved]
    decide
  have huncounted : ¬∃ outcome, start.credit outcome 1 mixed = 1 := by
    intro hcounted
    exact (htasks 1 (by decide)).2.2.mp hcounted hlate
  exact ⟨hsettled, (hlabels "error" (by simp)).symm.trans herror, hcancelled.symm.trans hgiven,
    htimes, hlate, huncounted⟩

end HealthPanel.Panel
