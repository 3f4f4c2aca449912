import HealthPanel.Proofs.Metrics
import HealthPanel.Proofs.Panel.Transition
import Mathlib.Algebra.BigOperators.Ring.Finset
import Mathlib.Data.List.Induction

/-!
# What steps add to the counters

A counter moves only when a task records how it went, and by one. So what it shows is what it
showed at first and what the steps of each task have added since.
-/

namespace HealthPanel

/-- The task that takes a step, if the action is a step of a task. -/
def Action.task? : Action → Option Nat
  | start task | resolve task _ | look task | apply task _ | record task _ => some task
  | activate | teardown | raise _ | drop | readCounter _ => none

namespace Panel

variable {panel later : Panel} {action : Action} {task : Nat} {outcome : String}

/-! ## Counters -/

/-- The counter of an outcome. -/
def counter (panel : Panel) (outcome : String) : Nat :=
  panel.metrics.elim 0 (·.count outcome)

/-- Panels with the same metrics have the same counters. -/
theorem counter_congr (h : later.metrics = panel.metrics) :
    later.counter outcome = panel.counter outcome := by
  rw [counter, h]
  rfl

/-- How many probes the histogram has counted. -/
def observed (panel : Panel) : Nat :=
  panel.metrics.elim 0 (·.times.count)

/-- The panel has metrics, and they are as recording and reading leave them. -/
def IsMetered (panel : Panel) : Prop :=
  ∃ metrics, panel.metrics = some metrics ∧ metrics.IsBalanced

/-- Every step leaves the metrics as recording and reading do. -/
theorem Transition.isMetered (h : Transition panel action later) (metered : panel.IsMetered) :
    later.IsMetered := by
  obtain ⟨metrics, hmetrics, hbalanced⟩ := metered
  cases h with
  | @recordCheck task status elapsed applied =>
    exact ⟨metrics.record status elapsed, by simp [hmetrics], hbalanced.record _ _⟩
  | recordCancelled interrupted =>
    exact ⟨metrics.recordCancelled, by simp [hmetrics], hbalanced.recordCancelled⟩
  | @readCounter outcome =>
    exact ⟨(metrics.read outcome).2, by simp [hmetrics], hbalanced.read _⟩
  | _ => exact ⟨metrics, hmetrics, hbalanced⟩

/-- Fresh metrics are as recording and reading leave them. -/
theorem isMetered_initial : (initial (some .empty)).IsMetered :=
  ⟨.empty, rfl, Metrics.isBalanced_empty⟩

/-- The histogram counts what the counters of the three states count. -/
theorem IsMetered.observed_eq (metered : panel.IsMetered) :
    panel.observed =
      panel.counter "connected" + panel.counter "error" + panel.counter "unreachable" := by
  obtain ⟨metrics, hmetrics, hbalanced⟩ := metered
  simp only [observed, counter, hmetrics, Option.elim_some]
  exact hbalanced

/-- Only recording and reading touch the metrics. -/
theorem Transition.metrics_eq (h : Transition panel action later)
    (notRecord : ∀ task elapsed, action ≠ .record task elapsed)
    (notRead : ∀ outcome, action ≠ .readCounter outcome) : later.metrics = panel.metrics := by
  cases h with
  | recordCheck => exact absurd rfl (notRecord _ _)
  | recordCancelled => exact absurd rfl (notRecord _ _)
  | readCounter => exact absurd rfl (notRead _)
  | _ => rfl

/-- What recording adds to a counter: one to that of the label of a status that was written, or to
that of the checks that were given up. -/
def increment (outcome : String) : Option Phase → Nat
  | some (.applied status) => if Metrics.key outcome = Metrics.key status.label then 1 else 0
  | some .interrupted => if Metrics.key outcome = Metrics.key Metrics.cancelled then 1 else 0
  | _ => 0

/-- What an action adds to a counter. -/
def gain (outcome : String) (panel : Panel) : Action → Nat
  | .record task _ => increment outcome (panel.phase? task)
  | _ => 0

/-- A step changes a counter by what its action adds. -/
theorem IsMetered.counter_step (metered : panel.IsMetered) (outcome : String) (action : Action) :
    (panel.step action).counter outcome = panel.counter outcome + panel.gain outcome action := by
  obtain ⟨metrics, hmetrics, -⟩ := metered
  cases action with
  | record task elapsed =>
    simp only [step, gain]
    split
    case h_1 status applied =>
      simpa [counter, hmetrics, increment, applied] using
        Metrics.count_record status elapsed outcome
    case h_2 interrupted =>
      simpa [counter, hmetrics, increment, interrupted] using
        Metrics.count_recordCancelled outcome
    case h_3 hother hneither =>
      have hzero : increment outcome (panel.phase? task) = 0 := by
        unfold increment
        split
        case h_1 status applied => exact absurd applied (hother status)
        case h_2 interrupted => exact absurd interrupted hneither
        case h_3 => rfl
      rw [hzero, Nat.add_zero]
  | readCounter read =>
    simpa [step, counter, hmetrics, gain] using Metrics.count_read read outcome
  | activate | start | resolve | look | apply | teardown | raise | drop =>
    exact counter_congr ((transition_step panel _).metrics_eq (by simp) (by simp))

/-! ## What the steps of one task add -/

/-- How much the steps of a task add to a counter in a run. -/
def credit (outcome : String) (task : Nat) : Panel → List Action → Nat
  | _, [] => 0
  | panel, action :: actions =>
    (if action.task? = some task then
      (panel.step action).counter outcome - panel.counter outcome else 0)
      + credit outcome task (panel.step action) actions

/-- What one action adds to a counter as a step of a task. -/
def share (outcome : String) (task : Nat) (panel : Panel) (action : Action) : Nat :=
  if action.task? = some task then panel.gain outcome action else 0

/-- The last action of a run adds its share to what the task has added before. -/
theorem credit_concat (metered : panel.IsMetered) (outcome : String) (task : Nat)
    (actions : List Action) (last : Action) :
    panel.credit outcome task (actions ++ [last]) =
      panel.credit outcome task actions + (panel.run actions).share outcome task last := by
  induction actions generalizing panel with
  | nil =>
    have hstep := metered.counter_step outcome last
    simp only [List.nil_append, credit, Nat.add_zero, Nat.zero_add, run, List.foldl_nil, share]
    rw [hstep, Nat.add_sub_cancel_left]
  | cons action actions ih =>
    have hrest := ih ((transition_step panel action).isMetered metered)
    simp only [List.cons_append, credit, hrest]
    rw [Nat.add_assoc]
    rfl

/-- No step takes a task away. -/
theorem Transition.length_tasks_le (h : Transition panel action later) :
    panel.tasks.length ≤ later.tasks.length := by
  cases h with
  | activate => simp
  | ask => simp
  | refuse | resolve | giveUp | wait | write | discard | recordCheck | recordCancelled =>
    exact Nat.le_of_eq length_tasks_setPhase.symm
  | _ => exact Nat.le_refl _

/-- The shares of all tasks in one action make up what the action adds. -/
theorem sum_share {bound : Nat} (h : panel.tasks.length ≤ bound) (outcome : String)
    (action : Action) :
    ∑ task ∈ Finset.range bound, panel.share outcome task action = panel.gain outcome action := by
  cases action with
  | record task elapsed =>
    simp only [share, Action.task?, Option.some.injEq]
    rw [Finset.sum_ite_eq]
    split
    case isTrue => rfl
    case isFalse hout =>
      have hnone : panel.phase? task = none := by
        simp only [Finset.mem_range, not_lt] at hout
        simp [phase?, List.getElem?_eq_none (h.trans hout)]
      simp [gain, hnone, increment]
  | _ => simp [share, gain]

/-- A counter shows what it showed at first and what every task has added since. -/
theorem counter_run_eq_sum_credit (metered : panel.IsMetered) (outcome : String)
    (actions : List Action) {bound : Nat} (h : (panel.run actions).tasks.length ≤ bound) :
    (panel.run actions).counter outcome =
      panel.counter outcome + ∑ task ∈ Finset.range bound, panel.credit outcome task actions := by
  induction actions using List.reverseRecOn with
  | nil => simp [run, credit]
  | append_singleton actions last ih =>
    rw [run_concat] at h ⊢
    have hlength := (transition_step (panel.run actions) last).length_tasks_le.trans h
    have hmetered := run_induction Transition.isMetered metered actions
    rw [hmetered.counter_step, ih hlength]
    simp only [credit_concat metered, Finset.sum_add_distrib, sum_share hlength]
    rw [Nat.add_assoc]

end Panel

end HealthPanel
