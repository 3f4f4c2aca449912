import HealthPanel.Proofs.Panel.Counters

/-!
# A panel in use

A panel that is neither torn down nor dropped keeps its signal quiet, so that no task gives up:
one that runs waits for its response, and one whose response comes runs to its end. Between two
uses of the panel each task is therefore either in flight or has ended with a status.
-/

namespace HealthPanel.Panel

variable {panel later : Panel} {action : Action} {task : Nat}

/-! ## Tasks in flight -/

/-- A task that listens to the signal, which it last saw in some version. -/
def Listens (panel : Panel) (task seen : Nat) : Prop :=
  panel.phase? task = some (.spawned seen) ∨ panel.phase? task = some (.probing seen)

/-- A task that waits to run for the first time, or for its response. -/
def IsInFlight (panel : Panel) (task : Nat) : Prop :=
  ∃ seen, panel.Listens task seen

/-! ## Uses -/

/-- What is done with a panel before its end. -/
inductive Use
  | activate
  /-- A task runs until it waits for its response. -/
  | proceed (task : Nat)
  /-- The response of a task is let through, and the task runs to its end. -/
  | release (task : Nat) (status : Status) (now : Instant) (elapsed : Span)
  /-- Somebody reads the counter of an outcome. -/
  | read (outcome : String)

/-- The actions of a use. -/
def Use.actions : Use → List Action
  | activate => [.activate]
  | proceed task => [.start task, .look task]
  | release task status now elapsed => settle task status now elapsed
  | read outcome => [.readCounter outcome]

/-! ## Steps of one task -/

/-- A task moves with its own actions only. -/
theorem TaskMove.task?_eq {old new : Task} (move : TaskMove panel task action old new) :
    action.task? = some task := by
  cases move <;> rfl

/-- What the steps of one task leave as it is: the flag, the signal, the calls of a teardown, and
all other tasks. -/
structure LeavesRest (task : Nat) (panel later : Panel) : Prop where
  isActive : later.isActive = panel.isActive
  isDropped : later.isDropped = panel.isDropped
  signal : later.signal = panel.signal
  teardowns : later.teardowns = panel.teardowns
  phase? : ∀ other, other ≠ task → later.phase? other = panel.phase? other

/-- A step of a task leaves all others as they are. -/
theorem Transition.leavesRest (h : Transition panel action later)
    (own : action.task? = some task) : LeavesRest task panel later := by
  have hphase : ∀ other, other ≠ task → later.phase? other = panel.phase? other := by
    intro other hother
    have hchange := h.taskChange other
    simp only [Panel.phase?]
    generalize later.tasks[other]? = entry at hchange
    cases hchange with
    | same => rfl
    | new _ activates =>
      subst activates
      cases own
    | moved _ move => exact absurd (Option.some.inj (move.task?_eq.symm.trans own)) hother
  cases h with
  | activate | deactivate | returnAtOnce | raise | drop | readCounter => cases own
  | _ => exact ⟨rfl, rfl, rfl, rfl, hphase⟩

/-- Steps of a task leave all others as they are. -/
theorem leavesRest_run (panel : Panel) {actions : List Action}
    (own : ∀ action ∈ actions, action.task? = some task) :
    LeavesRest task panel (panel.run actions) := by
  refine run_induction_of (motive := LeavesRest task panel) ?_ ⟨rfl, rfl, rfl, rfl, fun _ _ => rfl⟩
    own
  intro before action after hown step earlier
  have hstep := step.leavesRest hown
  exact ⟨hstep.isActive.trans earlier.isActive, hstep.isDropped.trans earlier.isDropped,
    hstep.signal.trans earlier.signal, hstep.teardowns.trans earlier.teardowns,
    fun other hother => (hstep.phase? other hother).trans (earlier.phase? other hother)⟩

/-! ## Panels in use -/

/-- The phases of tasks between two uses of a panel. -/
inductive IsResting : Phase → Prop
  | spawned : IsResting (.spawned 0)
  | probing : IsResting (.probing 0)
  | ended (status : Status) : IsResting (.ended (some status))

/-- A panel between two uses: it is active, nobody has raised its signal, and its tasks rest. -/
structure IsInUse (panel : Panel) : Prop where
  isActive : panel.isActive = true
  isDropped : panel.isDropped = false
  signal : panel.signal = .initial false
  teardowns : panel.teardowns = []
  resting : ∀ task phase, panel.phase? task = some phase → IsResting phase

/-- A new panel is in use. -/
theorem isInUse_initial (metrics : Option Metrics) : (initial metrics).IsInUse where
  isActive := rfl
  isDropped := rfl
  signal := rfl
  teardowns := rfl
  resting task phase h := by simp [initial, phase?] at h

namespace IsInUse

/-- The signal of a panel in use is not raised. -/
theorem quiet (used : panel.IsInUse) : panel.signal.isRaised = false := by
  rw [used.signal]
  rfl

/-- Whoever looks at the signal of a panel in use sees that it is quiet. -/
theorem look_eq (used : panel.IsInUse) (seen : Nat) : panel.signal.look seen = (false, 0) := by
  simp [used.signal, Signal.look, Signal.initial]

/-- A panel stays in use through steps of one task after which the task rests. -/
theorem of_leavesRest (used : panel.IsInUse) (rest : LeavesRest task panel later)
    (resting : ∀ phase, later.phase? task = some phase → IsResting phase) : later.IsInUse where
  isActive := rest.isActive.trans used.isActive
  isDropped := rest.isDropped.trans used.isDropped
  signal := rest.signal.trans used.signal
  teardowns := rest.teardowns.trans used.teardowns
  resting other phase h := by
    by_cases hother : other = task
    · exact resting phase (hother ▸ h)
    · exact used.resting other phase (rest.phase? other hother ▸ h)

/-- A panel stays in use if the move that an action takes a resting task on by brings it to rest. -/
theorem step_of_move (used : panel.IsInUse) (own : action.task? = some task)
    (keep : ∀ {old new}, TaskMove panel task action old new →
      IsResting old.phase → IsResting new.phase) : (panel.step action).IsInUse := by
  refine used.of_leavesRest ((transition_step panel action).leavesRest own) ?_
  intro next hnext
  have hchange := (transition_step panel action).taskChange task
  rw [phase?] at hnext
  generalize (panel.step action).tasks[task]? = entry at hchange hnext
  cases hchange with
  | same => exact used.resting task next hnext
  | new _ activates =>
    subst activates
    cases own
  | @moved old new hold move =>
    have hphase : panel.phase? task = some old.phase := by simp [phase?, hold]
    exact Option.some.inj hnext ▸ keep move (used.resting task _ hphase)

/-- A panel in use stays so when it is activated. -/
theorem activate (used : panel.IsInUse) : (panel.step .activate).IsInUse := by
  have hstep : panel.step .activate =
      { panel with tasks := panel.tasks ++ [⟨.spawned 0, false⟩] } := by
    simp [step, used.isDropped, used.signal, Signal.initial]
  rw [hstep]
  refine ⟨used.isActive, used.isDropped, used.signal, used.teardowns, fun task phase h => ?_⟩
  simp only [phase?, List.getElem?_append, List.getElem?_singleton] at h
  split at h
  case isTrue => exact used.resting task phase h
  case isFalse =>
    split at h
    case isTrue => exact Option.some.inj h ▸ .spawned
    case isFalse => cases h

/-- A panel in use stays so when a task starts. -/
theorem start (used : panel.IsInUse) (task : Nat) : (panel.step (.start task)).IsInUse := by
  refine used.step_of_move rfl fun move hold => ?_
  cases move with
  | refuse raised => exact absurd raised (by simp [used.quiet])
  | ask =>
    cases hold
    exact .probing

/-- A panel in use stays so when a task looks at the signal. -/
theorem look (used : panel.IsInUse) (task : Nat) : (panel.step (.look task)).IsInUse := by
  refine used.step_of_move rfl fun move hold => ?_
  cases move with
  | giveUp stops => exact absurd stops (by simp [used.look_eq])
  | wait => simpa [used.look_eq] using IsResting.probing

/-- A task that waits for its response runs to its end once that is let through. -/
theorem phase?_respond (used : panel.IsInUse) {seen : Nat}
    (probing : panel.phase? task = some (.probing seen)) (status : Status) (now : Instant)
    (elapsed : Span) :
    (panel.run [.resolve task status, .apply task now, .record task elapsed]).phase? task =
      some (.ended (some status)) := by
  obtain ⟨asked, hentry⟩ := phase?_eq_some_iff.mp probing
  have hresolved : (panel.step (.resolve task status)).tasks[task]? =
      some ⟨.resolved status, asked⟩ := TaskMove.resolve.getElem?_step hentry
  have hactive : (panel.step (.resolve task status)).isActive = true := by
    rw [((transition_step panel _).leavesRest rfl).isActive, used.isActive]
  have happlied : ((panel.step (.resolve task status)).step (.apply task now)).tasks[task]? =
      some ⟨.applied status, asked⟩ := (TaskMove.write hactive).getElem?_step hresolved
  exact phase?_eq_some_iff.mpr ⟨asked, TaskMove.recordCheck.getElem?_step happlied⟩

/-- A panel in use is so after a response, whether or not somebody waits for it. -/
theorem respond (used : panel.IsInUse) (task : Nat) (status : Status) (now : Instant)
    (elapsed : Span) :
    (panel.run [.resolve task status, .apply task now, .record task elapsed]).IsInUse := by
  by_cases hprobing : panel.phase? task = some (.probing 0)
  · have hrest : LeavesRest task panel
        (panel.run [.resolve task status, .apply task now, .record task elapsed]) :=
      leavesRest_run panel (by simp [Action.task?])
    refine used.of_leavesRest hrest fun next hnext => ?_
    rw [used.phase?_respond hprobing] at hnext
    exact Option.some.inj hnext ▸ .ended status
  · have hidle : panel.run [.resolve task status, .apply task now, .record task elapsed] =
        panel := by
      cases hphase : panel.phase? task with
      | none => simp [run, step, hphase]
      | some phase =>
        cases used.resting task phase hphase with
        | probing => exact absurd hphase hprobing
        | spawned => simp [run, step, hphase]
        | ended => simp [run, step, hphase]
    rwa [hidle]

/-- A panel in use is so after every use. -/
theorem use (used : panel.IsInUse) (use : Use) : (panel.run use.actions).IsInUse := by
  cases use with
  | activate => exact used.activate
  | proceed task => exact (used.start task).look task
  | release task status now elapsed => exact (used.start task).respond task status now elapsed
  | read outcome => exact ⟨used.isActive, used.isDropped, used.signal, used.teardowns, used.resting⟩

end IsInUse

/-- A panel is in use after any uses. -/
theorem isInUse_run (metrics : Option Metrics) (uses : List Use) :
    ((initial metrics).run (uses.flatMap Use.actions)).IsInUse := by
  induction uses using List.reverseRecOn with
  | nil => exact isInUse_initial metrics
  | append_singleton uses last ih =>
    rw [List.flatMap_append, List.flatMap_singleton, run_append]
    exact ih.use last

end HealthPanel.Panel
