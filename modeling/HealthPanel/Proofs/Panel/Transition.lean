import HealthPanel.Panel.Basic

/-!
# What a step does to a panel

An action that cannot be taken changes nothing; any other has exactly one effect under one
condition. The relation below lists them once, so that what holds of every step follows from
a look at each effect, and what holds of every run by induction on its actions.
-/

namespace HealthPanel.Panel

variable {panel later : Panel} {action : Action} {task other : Nat} {phase : Phase}

/-! ## Putting one task into a phase -/

/-- A task in another phase is no new task. -/
@[simp] theorem length_tasks_setPhase :
    (panel.setPhase task phase).tasks.length = panel.tasks.length := by
  simp [setPhase]

/-- A task keeps everything but its phase. -/
theorem getElem?_tasks_setPhase :
    (panel.setPhase task phase).tasks[other]? =
      panel.tasks[other]?.map fun old => if task = other then { old with phase } else old := by
  simp [setPhase, List.getElem?_modify]

/-- A task is in a phase if and only if its entry says so. -/
theorem phase?_eq_some_iff :
    panel.phase? task = some phase ↔ ∃ asked, panel.tasks[task]? = some ⟨phase, asked⟩ := by
  constructor
  · intro h
    obtain ⟨entry, hentry, hphase⟩ := Option.map_eq_some_iff.mp h
    exact ⟨entry.asked, by rw [hentry, ← hphase]⟩
  · intro hparts
    obtain ⟨asked, hentry⟩ := hparts
    simp [phase?, hentry]

/-- A task has a result if and only if its entry says that it has ended with it. -/
theorem result?_eq_some_iff {result : Option Status} :
    panel.result? task = some result ↔ panel.phase? task = some (.ended result) := by
  unfold result?
  split
  case h_1 ended hended => simp [hended]
  case h_2 hother =>
    constructor
    · intro h
      contradiction
    · intro h
      exact absurd h (hother result)

/-! ## The effects of actions -/

/-- What an action may do to a panel, and when. -/
inductive Transition (panel : Panel) : Action → Panel → Prop
  | idle (action : Action) : Transition panel action panel
  | activate (present : panel.isDropped = false) :
      Transition panel .activate
        { panel with tasks := panel.tasks ++ [⟨.spawned panel.signal.version, false⟩] }
  /-- A task that first runs under a raised signal gives up. -/
  | refuse {task seen : Nat} (spawned : panel.phase? task = some (.spawned seen))
      (raised : panel.signal.isRaised = true) :
      Transition panel (.start task) (panel.setPhase task .interrupted)
  | ask {task seen : Nat} (spawned : panel.phase? task = some (.spawned seen))
      (quiet : panel.signal.isRaised = false) :
      Transition panel (.start task)
        { panel with tasks := panel.tasks.modify task fun _ => ⟨.probing seen, true⟩ }
  | resolve {task seen : Nat} {status : Status}
      (probing : panel.phase? task = some (.probing seen)) :
      Transition panel (.resolve task status) (panel.setPhase task (.resolved status))
  /-- A task that sees the signal raised, or sees that nobody can raise it any more, gives up. -/
  | giveUp {task seen : Nat} (probing : panel.phase? task = some (.probing seen))
      (stops : (panel.signal.look seen).1 = true) :
      Transition panel (.look task) (panel.setPhase task .interrupted)
  | wait {task seen : Nat} (probing : panel.phase? task = some (.probing seen))
      (goesOn : (panel.signal.look seen).1 = false) :
      Transition panel (.look task)
        (panel.setPhase task (.probing (panel.signal.look seen).2))
  | write {task : Nat} {status : Status} {now : Instant}
      (resolved : panel.phase? task = some (.resolved status)) (active : panel.isActive = true) :
      Transition panel (.apply task now)
        { panel.setPhase task (.applied status) with
          status := some status, checkedAt := some now }
  | discard {task : Nat} {status : Status} {now : Instant}
      (resolved : panel.phase? task = some (.resolved status))
      (inactive : panel.isActive = false) :
      Transition panel (.apply task now) (panel.setPhase task (.ended none))
  | recordCheck {task : Nat} {status : Status} {elapsed : Span}
      (applied : panel.phase? task = some (.applied status)) :
      Transition panel (.record task elapsed)
        { panel.setPhase task (.ended (some status)) with
          metrics := panel.metrics.map (·.record status elapsed) }
  | recordCancelled {task : Nat} {elapsed : Span}
      (interrupted : panel.phase? task = some .interrupted) :
      Transition panel (.record task elapsed)
        { panel.setPhase task (.ended none) with
          metrics := panel.metrics.map Metrics.recordCancelled }
  | deactivate (present : panel.isDropped = false) (active : panel.isActive = true) :
      Transition panel .teardown
        { panel with isActive := false, teardowns := panel.teardowns ++ [.raising] }
  /-- A teardown of an inactive panel returns at once. -/
  | returnAtOnce (present : panel.isDropped = false) (inactive : panel.isActive = false) :
      Transition panel .teardown { panel with teardowns := panel.teardowns ++ [.returned] }
  | raise {call : Nat} (raising : panel.teardowns[call]? = some .raising) :
      Transition panel (.raise call)
        { panel.raiseSignal with teardowns := panel.teardowns.set call .returned }
  | drop (present : panel.isDropped = false) (settled : .raising ∉ panel.teardowns) :
      Transition panel .drop
        { panel.raiseSignal with
          signal := panel.raiseSignal.signal.after .close, isDropped := true }
  | readCounter {outcome : String} :
      Transition panel (.readCounter outcome)
        { panel with metrics := panel.metrics.map fun metrics => (metrics.read outcome).2 }

/-- Every step is one of the transitions. -/
theorem transition_step (panel : Panel) (action : Action) :
    Transition panel action (panel.step action) := by
  cases action with
  | activate =>
    simp only [step]
    split
    case isTrue => exact .idle _
    case isFalse present => exact .activate (by simpa using present)
  | start task =>
    simp only [step]
    split
    case h_1 seen spawned =>
      simp only [startTask]
      split
      case isTrue raised => exact .refuse spawned raised
      case isFalse quiet => exact .ask spawned (by simpa using quiet)
    case h_2 => exact .idle _
  | resolve task status =>
    simp only [step]
    split
    case h_1 seen probing => exact .resolve probing
    case h_2 => exact .idle _
  | look task =>
    simp only [step]
    split
    case h_1 seen probing =>
      split
      case h_1 latest hlook => exact .giveUp probing (by rw [hlook])
      case h_2 latest hlook =>
        have hseen : latest = (panel.signal.look seen).2 := by rw [hlook]
        rw [hseen]
        exact .wait probing (by rw [hlook])
    case h_2 => exact .idle _
  | apply task now =>
    simp only [step]
    split
    case h_1 status resolved =>
      simp only [applyTask]
      split
      case isTrue active => exact .write resolved active
      case isFalse inactive => exact .discard resolved (by simpa using inactive)
    case h_2 => exact .idle _
  | record task elapsed =>
    simp only [step]
    split
    case h_1 status applied => exact .recordCheck applied
    case h_2 interrupted => exact .recordCancelled interrupted
    case h_3 => exact .idle _
  | teardown =>
    simp only [step]
    split
    case isTrue => exact .idle _
    case isFalse present =>
      simp only [beginTeardown]
      split
      case isTrue active => exact .deactivate (by simpa using present) active
      case isFalse inactive =>
        exact .returnAtOnce (by simpa using present) (by simpa using inactive)
  | raise call =>
    simp only [step]
    split
    case h_1 raising => exact .raise raising
    case h_2 => exact .idle _
  | drop =>
    simp only [step]
    split
    case isTrue => exact .idle _
    case isFalse h =>
      obtain ⟨present, settled⟩ := not_or.mp h
      exact .drop (by simpa using present) settled
  | readCounter outcome => exact .readCounter

/-! ## What a step does to one task -/

/-- The step that an action takes one task on by. -/
inductive TaskMove (panel : Panel) (task : Nat) : Action → Task → Task → Prop
  | refuse {seen : Nat} {asked : Bool} (raised : panel.signal.isRaised = true) :
      TaskMove panel task (.start task) ⟨.spawned seen, asked⟩ ⟨.interrupted, asked⟩
  | ask {seen : Nat} {asked : Bool} (quiet : panel.signal.isRaised = false) :
      TaskMove panel task (.start task) ⟨.spawned seen, asked⟩ ⟨.probing seen, true⟩
  | resolve {seen : Nat} {asked : Bool} {status : Status} :
      TaskMove panel task (.resolve task status) ⟨.probing seen, asked⟩ ⟨.resolved status, asked⟩
  | giveUp {seen : Nat} {asked : Bool} (stops : (panel.signal.look seen).1 = true) :
      TaskMove panel task (.look task) ⟨.probing seen, asked⟩ ⟨.interrupted, asked⟩
  | wait {seen : Nat} {asked : Bool} (goesOn : (panel.signal.look seen).1 = false) :
      TaskMove panel task (.look task) ⟨.probing seen, asked⟩
        ⟨.probing (panel.signal.look seen).2, asked⟩
  | write {status : Status} {asked : Bool} {now : Instant} (active : panel.isActive = true) :
      TaskMove panel task (.apply task now) ⟨.resolved status, asked⟩ ⟨.applied status, asked⟩
  | discard {status : Status} {asked : Bool} {now : Instant}
      (inactive : panel.isActive = false) :
      TaskMove panel task (.apply task now) ⟨.resolved status, asked⟩ ⟨.ended none, asked⟩
  | recordCheck {status : Status} {asked : Bool} {elapsed : Span} :
      TaskMove panel task (.record task elapsed) ⟨.applied status, asked⟩
        ⟨.ended (some status), asked⟩
  | recordCancelled {asked : Bool} {elapsed : Span} :
      TaskMove panel task (.record task elapsed) ⟨.interrupted, asked⟩ ⟨.ended none, asked⟩

/-- What becomes of the task with some number in a step. -/
inductive TaskChange (panel : Panel) (task : Nat) (action : Action) : Option Task → Prop
  | same : TaskChange panel task action panel.tasks[task]?
  /-- The panel is activated, and this is the new task. -/
  | new (fresh : panel.tasks.length = task) (activates : action = .activate) :
      TaskChange panel task action (some ⟨.spawned panel.signal.version, false⟩)
  | moved {old new : Task} (entry : panel.tasks[task]? = some old)
      (move : TaskMove panel task action old new) : TaskChange panel task action (some new)

/-- Putting one task into a phase moves that task and no other. -/
theorem taskChange_setPhase (present : panel.phase? task = some phase) {next : Phase}
    (move : ∀ asked, TaskMove panel task action ⟨phase, asked⟩ ⟨next, asked⟩) (other : Nat) :
    TaskChange panel other action (panel.setPhase task next).tasks[other]? := by
  obtain ⟨asked, hentry⟩ := phase?_eq_some_iff.mp present
  rw [getElem?_tasks_setPhase]
  by_cases h : task = other
  · subst h
    simpa [hentry] using TaskChange.moved hentry (move asked)
  · simpa [h] using TaskChange.same

/-- A step moves one task on, adds one, or leaves them all as they are. -/
theorem Transition.taskChange (h : Transition panel action later) (other : Nat) :
    TaskChange panel other action later.tasks[other]? := by
  cases h with
  | activate present =>
    rcases Nat.lt_trichotomy other panel.tasks.length with hlt | heq | hgt
    · rw [List.getElem?_append_left hlt]
      exact .same
    · rw [List.getElem?_append_right (Nat.le_of_eq heq.symm), heq, Nat.sub_self]
      exact .new rfl rfl
    · have hnone : panel.tasks[other]? = none := List.getElem?_eq_none (Nat.le_of_lt hgt)
      rw [List.getElem?_eq_none (by simp; omega), ← hnone]
      exact .same
  | ask spawned quiet =>
    obtain ⟨asked, hentry⟩ := phase?_eq_some_iff.mp spawned
    simp only [List.getElem?_modify]
    split
    case isTrue hsame =>
      subst hsame
      rw [hentry]
      exact .moved hentry (.ask quiet)
    case isFalse =>
      rw [Option.map_eq_map, Option.map_id']
      exact .same
  | refuse spawned raised => exact taskChange_setPhase spawned (fun _ => .refuse raised) other
  | resolve probing => exact taskChange_setPhase probing (fun _ => .resolve) other
  | giveUp probing stops => exact taskChange_setPhase probing (fun _ => .giveUp stops) other
  | wait probing goesOn => exact taskChange_setPhase probing (fun _ => .wait goesOn) other
  | write resolved active => exact taskChange_setPhase resolved (fun _ => .write active) other
  | discard resolved inactive =>
    exact taskChange_setPhase resolved (fun _ => .discard inactive) other
  | recordCheck applied => exact taskChange_setPhase applied (fun _ => .recordCheck) other
  | recordCancelled interrupted =>
    exact taskChange_setPhase interrupted (fun _ => .recordCancelled) other
  | idle | deactivate | returnAtOnce | raise | drop | readCounter => exact .same

/-- What every move of a task keeps of its phase, every step keeps of it. -/
theorem Transition.keeps_phase (h : Transition panel action later) {kind : Phase → Prop}
    (keep : ∀ {old new}, TaskMove panel task action old new → kind old.phase → kind new.phase)
    (present : ∃ phase, panel.phase? task = some phase ∧ kind phase) :
    ∃ phase, later.phase? task = some phase ∧ kind phase := by
  obtain ⟨phase, hphase, hkind⟩ := present
  have hchange := h.taskChange task
  rw [phase?] at hphase
  simp only [phase?]
  generalize later.tasks[task]? = entry at hchange
  cases hchange with
  | same => exact ⟨phase, hphase, hkind⟩
  | new fresh =>
    rw [List.getElem?_eq_none (Nat.le_of_eq fresh)] at hphase
    contradiction
  | moved hold move =>
    rw [hold, Option.map_some, Option.some.injEq] at hphase
    exact ⟨_, rfl, keep move (hphase ▸ hkind)⟩

/-- The step that a task can be taken on by is taken when its action comes. -/
theorem TaskMove.getElem?_step {old new : Task} (move : TaskMove panel task action old new)
    (entry : panel.tasks[task]? = some old) :
    (panel.step action).tasks[task]? = some new := by
  cases move with
  | refuse raised => simp [step, phase?, entry, startTask, raised, getElem?_tasks_setPhase]
  | ask quiet => simp [step, phase?, entry, startTask, quiet]
  | resolve => simp [step, phase?, entry, getElem?_tasks_setPhase]
  | @giveUp seen asked stops =>
    have hlook : panel.signal.look seen = (true, (panel.signal.look seen).2) :=
      Prod.ext stops rfl
    simp only [step, phase?, entry, Option.map_some]
    rw [hlook]
    simp [getElem?_tasks_setPhase, entry]
  | @wait seen asked goesOn =>
    have hlook : panel.signal.look seen = (false, (panel.signal.look seen).2) :=
      Prod.ext goesOn rfl
    simp only [step, phase?, entry, Option.map_some]
    rw [hlook]
    simp [getElem?_tasks_setPhase, entry]
  | write active => simp [step, phase?, entry, applyTask, active, getElem?_tasks_setPhase]
  | discard inactive => simp [step, phase?, entry, applyTask, inactive, getElem?_tasks_setPhase]
  | recordCheck => simp [step, phase?, entry, getElem?_tasks_setPhase]
  | recordCancelled => simp [step, phase?, entry, getElem?_tasks_setPhase]

/-! ## Runs -/

/-- The last action of a run is taken in the state that the actions before it lead to. -/
theorem run_concat (panel : Panel) (actions : List Action) (action : Action) :
    panel.run (actions ++ [action]) = (panel.run actions).step action := by
  rw [run_append]
  rfl

/-- What every transition by an action of some kind keeps, every run of such actions keeps. -/
theorem run_induction_of {kind : Action → Prop} {motive : Panel → Prop}
    (keep : ∀ {panel action later}, kind action → Transition panel action later →
      motive panel → motive later)
    (base : motive panel) {actions : List Action} (all : ∀ action ∈ actions, kind action) :
    motive (panel.run actions) := by
  induction actions generalizing panel with
  | nil => exact base
  | cons action actions ih =>
    rw [List.forall_mem_cons] at all
    exact ih (keep all.1 (transition_step panel action) base) all.2

/-- What every transition keeps, every run keeps. -/
theorem run_induction {motive : Panel → Prop}
    (keep : ∀ {panel action later}, Transition panel action later → motive panel → motive later)
    (base : motive panel) (actions : List Action) : motive (panel.run actions) :=
  run_induction_of (fun _ : True => keep) base fun _ _ => trivial

/-- A list with one more entry is taken apart at an entry of the list or at the new one. -/
theorem exists_parts_concat {α : Type} (event : List α → α → Prop) {entries : List α} {last : α} :
    (∃ before entry after, entries ++ [last] = before ++ entry :: after ∧ event before entry) ↔
      (∃ before entry after, entries = before ++ entry :: after ∧ event before entry) ∨
        event entries last := by
  constructor
  · intro hparts
    obtain ⟨before, entry, after, h, hevent⟩ := hparts
    rcases List.eq_nil_or_concat after with rfl | ⟨initial, final, rfl⟩
    · obtain ⟨rfl, hlast⟩ := List.append_inj' h rfl
      obtain rfl : last = entry := by simpa using hlast
      exact .inr hevent
    · rw [List.concat_eq_append, ← List.cons_append, ← List.append_assoc] at h
      obtain ⟨rfl, -⟩ := List.append_inj' h rfl
      exact .inl ⟨before, entry, initial, rfl, hevent⟩
  · intro hcases
    rcases hcases with ⟨before, entry, after, rfl, hevent⟩ | hevent
    · exact ⟨before, entry, after ++ [last], by simp, hevent⟩
    · exact ⟨entries, last, [], rfl, hevent⟩

/-- At some moment of a run the state and the action taken in it are as `event` says. -/
def Occurs (start : Panel) (event : Panel → Action → Prop) (actions : List Action) : Prop :=
  ∃ before action after, actions = before ++ action :: after ∧ event (start.run before) action

/-- Nothing occurs in a run of no actions. -/
theorem not_occurs_nil {start : Panel} {event : Panel → Action → Prop} :
    ¬ start.Occurs event [] := by
  intro hparts
  obtain ⟨before, action, after, h, -⟩ := hparts
  simp at h

/-- What occurs in a run occurs before its last action or with it. -/
theorem occurs_concat {start : Panel} {event : Panel → Action → Prop} {actions : List Action}
    {last : Action} :
    start.Occurs event (actions ++ [last]) ↔
      start.Occurs event actions ∨ event (start.run actions) last :=
  exists_parts_concat fun before action => event (start.run before) action

end HealthPanel.Panel
