import HealthPanel.Proofs.Panel.Transition
import Mathlib.Data.List.Induction

/-!
# A torn-down panel is frozen

A teardown makes the panel inactive before it raises the signal, and it returns only after
both. Between the two, tasks may still ask, resolve and come to write, so what freezes the
panel is the flag alone: a task writes only while the panel is active. The signal stops the
tasks instead, and a task that is started once it is raised never asks.
-/

namespace HealthPanel.Panel

variable {panel later : Panel} {action : Action} {task first : Nat}

/-! ## The flag and the signal -/

/-- How the flag, the signal and the calls of a teardown hang together. -/
structure IsCoherent (panel : Panel) : Prop where
  inactive_of_called : panel.teardowns ≠ [] → panel.isActive = false
  /-- An inactive panel has raised its signal, unless a call still has to. -/
  raised_or_raising :
    panel.isActive = false → panel.signal.isRaised = true ∨ .raising ∈ panel.teardowns
  isOpen_eq : panel.signal.isOpen = !panel.isDropped
  settled_of_dropped : panel.isDropped = true → .raising ∉ panel.teardowns

/-- Nothing has been torn down yet. -/
theorem isCoherent_initial (metrics : Option Metrics) : (initial metrics).IsCoherent where
  inactive_of_called h := absurd rfl h
  raised_or_raising h := by simp [initial] at h
  isOpen_eq := rfl
  settled_of_dropped h := by simp [initial] at h

/-- While somebody may set the signal, raising it raises it. -/
theorem isRaised_raiseSignal (h : panel.signal.isOpen = true) :
    panel.raiseSignal.signal.isRaised = true := by
  simp [raiseSignal, Signal.after, h]

/-- Raising the signal closes nothing. -/
@[simp] theorem isOpen_raiseSignal : panel.raiseSignal.signal.isOpen = panel.signal.isOpen := by
  simp only [raiseSignal, Signal.after]
  split <;> rfl

/-- Every step keeps flag, signal and calls coherent. -/
theorem Transition.isCoherent (h : Transition panel action later) (coherent : panel.IsCoherent) :
    later.IsCoherent := by
  obtain ⟨called, quiet, hopen, settled⟩ := coherent
  cases h with
  | deactivate present active =>
    exact ⟨fun _ => rfl, fun _ => .inr (by simp), hopen, fun h => absurd h (by simp [present])⟩
  | returnAtOnce present inactive =>
    refine ⟨fun _ => inactive, fun _ => (quiet inactive).imp_right ?_, hopen, ?_⟩
    · exact fun h => List.mem_append_left _ h
    · exact fun h => absurd h (by simp [present])
  | @raise call raising =>
    have hmem := List.mem_of_getElem? raising
    have hpresent : panel.isDropped = false := by
      by_contra h
      exact settled (by simpa using h) hmem
    have hraised := isRaised_raiseSignal (by rw [hopen, hpresent]; rfl)
    have hinactive := called (List.ne_nil_of_mem hmem)
    refine ⟨fun _ => hinactive, fun _ => .inl hraised, isOpen_raiseSignal.trans hopen, ?_⟩
    exact fun h => absurd h (by simp [raiseSignal, hpresent])
  | drop present hsettled =>
    have hisOpen : panel.signal.isOpen = true := by rw [hopen, present]; rfl
    have hraised := isRaised_raiseSignal hisOpen
    refine ⟨called, fun _ => .inl ?_, ?_, fun _ => hsettled⟩
    · simpa [Signal.after, hisOpen] using hraised
    · simp [Signal.after, hisOpen]
  | _ => exact ⟨called, quiet, hopen, settled⟩

/-- In every run flag, signal and calls stay coherent. -/
theorem isCoherent_run (metrics : Option Metrics) (actions : List Action) :
    ((initial metrics).run actions).IsCoherent :=
  run_induction Transition.isCoherent (isCoherent_initial metrics) actions

/-- A raised signal stays raised. -/
theorem Transition.isRaised (h : Transition panel action later)
    (raised : panel.signal.isRaised = true) : later.signal.isRaised = true := by
  have hset : panel.raiseSignal.signal.isRaised = true := by
    simp only [raiseSignal, Signal.after]
    split
    case isTrue => rfl
    case isFalse => exact raised
  cases h with
  | raise => exact hset
  | drop =>
    simp only [Signal.after]
    split <;> exact hset
  | _ => exact raised

/-! ## What an inactive panel shows -/

/-- An inactive panel shows the same after every step. -/
theorem Transition.frozen (h : Transition panel action later)
    (inactive : panel.isActive = false) :
    later.status = panel.status ∧ later.checkedAt = panel.checkedAt ∧ later.isActive = false := by
  cases h with
  | write resolved active => simp [inactive] at active
  | deactivate present active => simp [inactive] at active
  | _ => exact ⟨rfl, rfl, inactive⟩

/-- An inactive panel shows the same after every run. -/
theorem run_of_inactive (inactive : panel.isActive = false) (actions : List Action) :
    (panel.run actions).status = panel.status ∧ (panel.run actions).checkedAt = panel.checkedAt ∧
      (panel.run actions).isActive = false := by
  refine run_induction (motive := fun later => later.status = panel.status ∧
    later.checkedAt = panel.checkedAt ∧ later.isActive = false) ?_ ⟨rfl, rfl, inactive⟩ actions
  intro before action after move ⟨hstatus, hchecked, hinactive⟩
  obtain ⟨hstatus', hchecked', hinactive'⟩ := move.frozen hinactive
  exact ⟨hstatus'.trans hstatus, hchecked'.trans hchecked, hinactive'⟩

/-! ## Where a result comes from -/

/-- A task comes to write a status, and the panel is active. -/
def Writes (task : Nat) (status : Status) (panel : Panel) (action : Action) : Prop :=
  panel.isActive = true ∧ panel.phase? task = some (.resolved status) ∧
    ∃ now, action = .apply task now

/-- A task that has a status to record, or has ended with one, wrote it. -/
theorem occurs_writes (metrics : Option Metrics) (actions : List Action) (status : Status)
    (h : ((initial metrics).run actions).phase? task = some (.applied status) ∨
      ((initial metrics).run actions).phase? task = some (.ended (some status))) :
    (initial metrics).Occurs (Writes task status) actions := by
  induction actions using List.reverseRecOn with
  | nil => simp [initial, run, phase?] at h
  | append_singleton actions action ih =>
    rw [run_concat] at h
    have hchange := (transition_step ((initial metrics).run actions) action).taskChange task
    simp only [phase?] at h ih
    generalize hentry : (((initial metrics).run actions).step action).tasks[task]? = entry
      at h hchange
    cases hchange with
    | same => exact occurs_concat.mpr (.inl (ih h))
    | new => simp at h
    | moved hold move =>
      cases move with
      | write active =>
        obtain rfl : _ = status := by simpa using h
        exact occurs_concat.mpr (.inr ⟨active, by simp [phase?, hold], _, rfl⟩)
      | recordCheck =>
        obtain rfl : _ = status := by simpa using h
        exact occurs_concat.mpr (.inl (ih (.inl (by simp [hold]))))
      | _ => simp at h

/-! ## Tasks under a raised signal -/

/-- A task that has not asked, and that can only end with nothing once the signal is raised. -/
inductive IsInert : Task → Prop
  | spawned (seen : Nat) : IsInert ⟨.spawned seen, false⟩
  | interrupted : IsInert ⟨.interrupted, false⟩
  | ended : IsInert ⟨.ended none, false⟩

/-- Under a raised signal an inert task stays inert. -/
theorem TaskMove.isInert {old new : Task} (move : TaskMove panel task action old new)
    (raised : panel.signal.isRaised = true) (inert : IsInert old) : IsInert new := by
  cases inert with
  | spawned seen =>
    cases move with
    | refuse => exact .interrupted
    | ask quiet => simp [raised] at quiet
  | interrupted =>
    cases move with
    | recordCancelled => exact .ended
  | ended => cases move

/-- The signal is raised, and every task from some number on is inert. -/
def IsInertFrom (first : Nat) (panel : Panel) : Prop :=
  panel.signal.isRaised = true ∧
    ∀ task entry, first ≤ task → panel.tasks[task]? = some entry → IsInert entry

/-- Tasks that are made under a raised signal are inert, and stay so. -/
theorem Transition.isInertFrom (h : Transition panel action later)
    (inert : panel.IsInertFrom first) : later.IsInertFrom first := by
  obtain ⟨raised, hinert⟩ := inert
  refine ⟨h.isRaised raised, ?_⟩
  intro task entry hfirst hentry
  have hchange := h.taskChange task
  rw [hentry] at hchange
  generalize hsome : some entry = found at hchange
  cases hchange with
  | same => exact hinert task entry hfirst hsome.symm
  | new =>
    obtain rfl := Option.some.inj hsome
    exact .spawned _
  | moved hold move =>
    obtain rfl := Option.some.inj hsome
    exact move.isInert raised (hinert task _ hfirst hold)

/-- Under a raised signal, no task that is still to come ever asks or finds a status. -/
theorem isInertFrom_run (raised : panel.signal.isRaised = true) (actions : List Action) :
    (panel.run actions).IsInertFrom panel.tasks.length := by
  refine run_induction Transition.isInertFrom ⟨raised, ?_⟩ actions
  intro task entry hfirst hentry
  rw [List.getElem?_eq_none hfirst] at hentry
  contradiction

/-- A task that has given up, whether or not it has recorded that. -/
def HasGivenUp (task : Nat) (panel : Panel) : Prop :=
  panel.phase? task = some .interrupted ∨ panel.phase? task = some (.ended none)

/-- A task that has given up does nothing else any more. -/
theorem Transition.hasGivenUp (h : Transition panel action later)
    (given : panel.HasGivenUp task) : later.HasGivenUp task := by
  have hpresent : ∃ phase, panel.phase? task = some phase ∧
      (phase = .interrupted ∨ phase = .ended none) := by
    rcases given with hinterrupted | hended
    · exact ⟨_, hinterrupted, .inl rfl⟩
    · exact ⟨_, hended, .inr rfl⟩
  obtain ⟨phase, hphase, hgiven⟩ : ∃ phase, later.phase? task = some phase ∧
      (phase = .interrupted ∨ phase = .ended none) :=
    h.keeps_phase (fun move hgiven => by cases move <;> simp at hgiven ⊢) hpresent
  rcases hgiven with rfl | rfl
  · exact .inl hphase
  · exact .inr hphase

/-- A task that has ended stays as it is. -/
theorem Transition.result?_eq (h : Transition panel action later) {result : Option Status}
    (ended : panel.result? task = some result) : later.result? task = some result := by
  rw [result?_eq_some_iff] at ended ⊢
  obtain ⟨phase, hphase, rfl⟩ : ∃ phase, later.phase? task = some phase ∧ phase = .ended result :=
    h.keeps_phase (fun move hended => by cases move <;> simp at hended) ⟨_, ended, rfl⟩
  exact hphase

/-- An inert task that exists has given up once it has run. -/
theorem hasGivenUp_start (inert : panel.IsInertFrom first) (hfirst : first ≤ task)
    (present : task < panel.tasks.length) : (panel.step (.start task)).HasGivenUp task := by
  have hentry : panel.tasks[task]? = some panel.tasks[task] := List.getElem?_eq_getElem present
  have hinert := inert.2 task _ hfirst hentry
  generalize panel.tasks[task] = entry at hentry hinert
  cases hinert with
  | spawned seen =>
    left
    simp [step, phase?, hentry, startTask, inert.1, getElem?_tasks_setPhase]
  | interrupted =>
    left
    simp [step, phase?, hentry]
  | ended =>
    right
    simp [step, phase?, hentry]

/-- A task that has given up ends with nothing once it has recorded that. -/
theorem result?_record (given : panel.HasGivenUp task) (elapsed : Span) :
    (panel.step (.record task elapsed)).result? task = some none := by
  rw [result?_eq_some_iff]
  rcases given with hinterrupted | hended
  · obtain ⟨asked, hentry⟩ := phase?_eq_some_iff.mp hinterrupted
    simp only [step, hinterrupted]
    exact phase?_eq_some_iff.mpr ⟨asked, by simp [getElem?_tasks_setPhase, hentry]⟩
  · simp only [step, hended]

/-- An activation under a raised signal ends with nothing as soon as its task has run and
recorded that, whatever comes before, in between and after. -/
theorem result?_of_scheduled (raised : panel.signal.isRaised = true)
    (before between after : List Action) (elapsed : Span) (made : panel.tasks.length ≤ task)
    (present : task < (panel.run before).tasks.length) :
    (panel.run (before ++ .start task :: between ++ .record task elapsed :: after)).result? task =
      some none := by
  have hinert := isInertFrom_run raised before
  have hstarted := hasGivenUp_start hinert made present
  have hwaiting := run_induction Transition.hasGivenUp hstarted between
  have hrecorded := result?_record hwaiting elapsed
  have hended := run_induction (motive := fun later => later.result? task = some none)
    (fun move ended => move.result?_eq ended) hrecorded after
  rw [run_append, run_append]
  exact hended

/-- Teardown freezes the panel. Once any call of it has returned, status, time, flag and report
never change again. In every run a task ends with a status only if it came to write while the
panel was active. When no call is between its two steps the signal is raised, and from then on
every new activation asks nothing, has no result but nothing, and comes to have it once its task
has taken its two steps. -/
theorem teardown_freezes (metrics : Option Metrics) (actions : List Action) :
    let panel := (initial metrics).run actions
    (.returned ∈ panel.teardowns → ∀ later docsUrl,
      (panel.run later).status = panel.status ∧
      (panel.run later).checkedAt = panel.checkedAt ∧
      (panel.run later).isActive = panel.isActive ∧
      (panel.run later).report docsUrl = panel.report docsUrl) ∧
    (∀ task status, panel.result? task = some (some status) →
      (initial metrics).Occurs (Writes task status) actions) ∧
    (.returned ∈ panel.teardowns → .raising ∉ panel.teardowns → panel.signal.isRaised = true) ∧
    (panel.signal.isRaised = true → ∀ task, panel.tasks.length ≤ task →
      (∀ later entry, (panel.run later).tasks[task]? = some entry → entry.asked = false) ∧
      (∀ later result, (panel.run later).result? task = some result → result = none) ∧
      ∀ before between after elapsed, task < (panel.run before).tasks.length →
        (panel.run (before ++ .start task :: between ++ .record task elapsed :: after)).result? task
          = some none) := by
  intro panel
  have hcoherent : panel.IsCoherent := isCoherent_run metrics actions
  refine ⟨?_, ?_, ?_, ?_⟩
  · intro hreturned later docsUrl
    have hinactive := hcoherent.inactive_of_called (List.ne_nil_of_mem hreturned)
    obtain ⟨hstatus, hchecked, hlater⟩ := run_of_inactive hinactive later
    refine ⟨hstatus, hchecked, hlater.trans hinactive.symm, ?_⟩
    rw [report, report, hstatus, hchecked]
  · intro task status hresult
    exact occurs_writes metrics actions status (.inr (result?_eq_some_iff.mp hresult))
  · intro hreturned hsettled
    have hinactive := hcoherent.inactive_of_called (List.ne_nil_of_mem hreturned)
    exact (hcoherent.raised_or_raising hinactive).resolve_right hsettled
  · intro hraised task hmade
    refine ⟨?_, ?_, ?_⟩
    · intro later entry hentry
      cases (isInertFrom_run hraised later).2 task entry hmade hentry <;> rfl
    · intro later result hresult
      obtain ⟨asked, hentry⟩ := phase?_eq_some_iff.mp (result?_eq_some_iff.mp hresult)
      cases (isInertFrom_run hraised later).2 task _ hmade hentry
      rfl
    · intro before between after elapsed hpresent
      exact result?_of_scheduled hraised before between after elapsed hmade hpresent

/-- Two calls of a teardown overlap: the second returns at once, while the task of an activation
is under way and the first has not raised the signal. -/
def overlapping : List Action := [.activate, .start 0, .teardown, .teardown]

/-- After the overlapping calls a task that resolves is discarded; once the first call has
raised the signal, a new activation ends with nothing. A task that nothing disturbs has written
its status. -/
theorem teardown_freezes_overlapping :
    let torn := (initial none).run overlapping
    let raised := (initial none).run (overlapping ++ [.raise 0])
    let settled := .activate :: settle 0 .error ⟨0, 0⟩ (.ofSeconds 0)
    .returned ∈ torn.teardowns ∧ (torn.run [.resolve 0 .error, .apply 0 ⟨0, 0⟩]).status = none ∧
      ((initial none).run settled).result? 0 = some (some .error) ∧
      (initial none).Occurs (Writes 0 .error) settled ∧
      .raising ∉ raised.teardowns ∧ raised.signal.isRaised = true ∧
      (raised.run [.activate, .start 1, .record 1 (.ofSeconds 0)]).result? 1 = some none := by
  intro torn raised settled
  have hreturned : .returned ∈ torn.teardowns := by decide
  have hfrozen := (teardown_freezes none overlapping).1 hreturned
  have hresult : ((initial none).run settled).result? 0 = some (some .error) := rfl
  have hwrote := (teardown_freezes none settled).2.1 0 .error hresult
  have hsettled : .raising ∉ raised.teardowns := by decide
  obtain ⟨-, -, hraised, hinert⟩ := teardown_freezes none (overlapping ++ [.raise 0])
  have hsignal := hraised (by decide) hsettled
  have hnew := (hinert hsignal 1 (by decide)).2.2 [.activate] [] [] (.ofSeconds 0) (by decide)
  exact ⟨hreturned, (hfrozen _ "").1, hresult, hwrote, hsettled, hsignal, hnew⟩

end HealthPanel.Panel
