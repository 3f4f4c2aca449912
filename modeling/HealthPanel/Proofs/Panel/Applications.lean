import HealthPanel.Proofs.Panel.Transition
import Mathlib.Data.List.Induction

/-!
# The last application wins

Tasks apply what they found in any order, whatever order they were started in. What a panel holds
is what was applied last: its status and its time are those of one application. A task applies
once at most, and what it applies is what its own check found and what it ends with.
-/

namespace HealthPanel

/-- A status that a task has put into its panel, and when. -/
structure Application where
  task : Nat
  status : Status
  time : Instant

namespace Panel

variable {panel later : Panel} {action : Action} {task : Nat}

/-! ## What a run applies -/

/-- What an action applies: a task comes with a status that it has found, and the panel is
active. -/
def application? (panel : Panel) : Action → Option Application
  | .apply task now =>
    match panel.phase? task with
    | some (.resolved status) => if panel.isActive then some ⟨task, status, now⟩ else none
    | _ => none
  | _ => none

/-- What the actions of a run apply, in order. -/
def applications : Panel → List Action → List Application
  | _, [] => []
  | panel, action :: actions =>
    (panel.application? action).toList ++ (panel.step action).applications actions

/-- The last action of a run applies after all others. -/
theorem applications_concat (panel : Panel) (actions : List Action) (last : Action) :
    panel.applications (actions ++ [last]) =
      panel.applications actions ++ ((panel.run actions).application? last).toList := by
  induction actions generalizing panel with
  | nil => simp [applications, run]
  | cons action actions ih =>
    simp only [List.cons_append, applications, ih, List.append_assoc]
    rfl

/-- A task applies a status that it has found, at some time and to an active panel. -/
def Applies (application : Application) (panel : Panel) (action : Action) : Prop :=
  panel.isActive = true ∧ panel.phase? application.task = some (.resolved application.status) ∧
    action = .apply application.task application.time

/-- An action applies something exactly if a task comes to apply it. -/
theorem application?_eq_some_iff {application : Application} :
    panel.application? action = some application ↔ Applies application panel action := by
  obtain ⟨task, status, time⟩ := application
  cases action with
  | apply other now =>
    simp only [application?, Applies, Action.apply.injEq]
    split
    case h_1 found hfound => by_cases hactive : panel.isActive <;> grind
    case h_2 hother => grind
  | _ => simp [application?, Applies]

/-- The applications of a run are those that occur in it. -/
theorem mem_applications_iff {application : Application} {actions : List Action} :
    application ∈ panel.applications actions ↔ panel.Occurs (Applies application) actions := by
  induction actions using List.reverseRecOn with
  | nil => simp [applications, not_occurs_nil]
  | append_singleton actions last ih =>
    rw [applications_concat, List.mem_append, occurs_concat, ih, Option.mem_toList,
      application?_eq_some_iff]

/-! ## What a panel holds -/

/-- What a panel holds was all put there by one application, or nothing was. -/
def Holds (panel : Panel) (application : Option Application) : Prop :=
  panel.status = application.map Application.status ∧
    panel.checkedAt = application.map Application.time

/-- An action that applies something is a task's write. -/
theorem step_of_application? {application : Application}
    (h : panel.application? action = some application) :
    panel.step action =
      { panel.setPhase application.task (.applied application.status) with
        status := some application.status, checkedAt := some application.time } := by
  obtain ⟨active, resolved, rfl⟩ := application?_eq_some_iff.mp h
  simp [step, resolved, applyTask, active]

/-- A step that applies nothing leaves what the panel holds as it is. -/
theorem Transition.holds (h : Transition panel action later)
    (nothing : panel.application? action = none) {held : Option Application}
    (holds : panel.Holds held) : later.Holds held := by
  cases h with
  | write resolved active => simp [application?, resolved, active] at nothing
  | _ => exact holds

/-- A step puts what it applies into the panel. -/
theorem Holds.step {held : Option Application} (holds : panel.Holds held) (action : Action) :
    (panel.step action).Holds ((panel.application? action).or held) := by
  cases happlication : panel.application? action with
  | none => exact (transition_step panel action).holds happlication holds
  | some application =>
    rw [step_of_application? happlication]
    exact ⟨rfl, rfl⟩

/-- In every run the panel holds what was applied last. -/
theorem holds_run (metrics : Option Metrics) (actions : List Action) :
    ((initial metrics).run actions).Holds ((initial metrics).applications actions).getLast? := by
  induction actions using List.reverseRecOn with
  | nil => exact ⟨rfl, rfl⟩
  | append_singleton actions last ih =>
    rw [run_concat, applications_concat, List.getLast?_append]
    convert ih.step last using 2
    cases ((initial metrics).run actions).application? last <;> rfl

/-! ## What one task applies -/

/-- What a task in some phase has applied. -/
def appliedIn : Option Phase → List Status
  | some (.applied status) | some (.ended (some status)) => [status]
  | _ => []

/-- What the applications of one task have put into the panel. -/
def appliedBy (task : Nat) (applications : List Application) : List Status :=
  (applications.filter (·.task = task)).map Application.status

/-- A move of a task that applies nothing leaves what it has applied as it is. -/
theorem TaskMove.appliedIn_eq {old new : Task} (move : TaskMove panel task action old new)
    (entry : panel.tasks[task]? = some old) (nothing : panel.application? action = none) :
    appliedIn (some new.phase) = appliedIn (some old.phase) := by
  cases move with
  | write active => simp [application?, phase?, entry, active] at nothing
  | _ => rfl

/-- A step adds what it applies to what its task has applied. -/
theorem appliedIn_step (panel : Panel) (action : Action) (task : Nat) :
    appliedIn ((panel.step action).phase? task) =
      appliedIn (panel.phase? task) ++ appliedBy task (panel.application? action).toList := by
  cases happlication : panel.application? action with
  | some application =>
    obtain ⟨-, resolved, -⟩ := application?_eq_some_iff.mp happlication
    have hphase : (panel.step action).phase? task =
        if application.task = task then some (.applied application.status)
        else panel.phase? task := by
      obtain ⟨asked, hentry⟩ := phase?_eq_some_iff.mp resolved
      rw [step_of_application? happlication]
      simp only [phase?, getElem?_tasks_setPhase]
      split
      case isTrue hsame => simp [← hsame, hentry]
      case isFalse => simp
    by_cases hsame : application.task = task
    · rw [hsame] at resolved
      simp [hphase, hsame, resolved, appliedIn, appliedBy]
    · simp [hphase, hsame, appliedBy]
  | none =>
    have hchange := (transition_step panel action).taskChange task
    simp only [phase?, appliedBy, Option.toList_none, List.filter_nil, List.map_nil,
      List.append_nil]
    generalize (panel.step action).tasks[task]? = entry at hchange
    cases hchange with
    | same => rfl
    | new fresh =>
      rw [List.getElem?_eq_none (Nat.le_of_eq fresh)]
      rfl
    | moved hold move =>
      rw [hold]
      exact move.appliedIn_eq hold happlication

/-- In every run the phase of a task tells what it has applied. -/
theorem appliedBy_run (metrics : Option Metrics) (actions : List Action) (task : Nat) :
    appliedBy task ((initial metrics).applications actions) =
      appliedIn (((initial metrics).run actions).phase? task) := by
  induction actions using List.reverseRecOn with
  | nil => rfl
  | append_singleton actions last ih =>
    rw [run_concat, applications_concat, appliedIn_step, ← ih, appliedBy, List.filter_append,
      List.map_append]
    rfl

/-! ## Where a status comes from -/

/-- The check of a task ends with a status. -/
def Finds (task : Nat) (status : Status) (panel : Panel) (action : Action) : Prop :=
  (∃ seen, panel.phase? task = some (.probing seen)) ∧ action = .resolve task status

/-- The phases of a task whose check has ended with a status. -/
def HasFound (status : Status) (phase : Phase) : Prop :=
  phase = .resolved status ∨ phase = .applied status ∨ phase = .ended (some status)

/-- A task that knows a status, in whatever phase, has it from its own check. -/
theorem occurs_finds (metrics : Option Metrics) (actions : List Action) {status : Status}
    {phase : Phase} (hphase : ((initial metrics).run actions).phase? task = some phase)
    (found : HasFound status phase) : (initial metrics).Occurs (Finds task status) actions := by
  induction actions using List.reverseRecOn generalizing phase with
  | nil => simp [initial, run, phase?] at hphase
  | append_singleton actions last ih =>
    rw [run_concat, phase?] at hphase
    have hchange := (transition_step ((initial metrics).run actions) last).taskChange task
    generalize (((initial metrics).run actions).step last).tasks[task]? = entry at hphase hchange
    cases hchange with
    | same => exact occurs_concat.mpr (.inl (ih hphase found))
    | new =>
      obtain rfl := Option.some.inj hphase
      simp [HasFound] at found
    | moved hold move =>
      obtain rfl := Option.some.inj hphase
      have hbefore : ((initial metrics).run actions).phase? task = some _ :=
        congrArg (Option.map Task.phase) hold
      cases move with
      | resolve =>
        obtain rfl : _ = status := by simpa [HasFound] using found
        exact occurs_concat.mpr (.inr ⟨⟨_, hbefore⟩, rfl⟩)
      | write | recordCheck =>
        obtain rfl : _ = status := by simpa [HasFound] using found
        exact occurs_concat.mpr (.inl (ih hbefore (by simp [HasFound])))
      | _ => simp [HasFound] at found

/-! ## Applications and handles -/

/-- A task that has applied one status has done so at one time. -/
theorem exists_filter_eq_singleton {applications : List Application} {status : Status}
    (h : appliedBy task applications = [status]) :
    ∃ time, applications.filter (·.task = task) = [⟨task, status, time⟩] := by
  obtain ⟨application, hfilter, rfl⟩ := List.map_eq_singleton_iff.mp h
  have hmem : application ∈ applications.filter (·.task = task) := by simp [hfilter]
  obtain rfl : application.task = task := by simpa using (List.mem_filter.mp hmem).2
  exact ⟨application.time, hfilter⟩

/-- A task that has applied a status has still to record it, or has ended with it. -/
theorem phase?_of_mem_applications {metrics : Option Metrics} {actions : List Action}
    {application : Application} (h : application ∈ (initial metrics).applications actions) :
    ((initial metrics).run actions).phase? application.task = some (.applied application.status) ∨
      ((initial metrics).run actions).phase? application.task =
        some (.ended (some application.status)) := by
  have hmem : application.status ∈
      appliedBy application.task ((initial metrics).applications actions) :=
    List.mem_map_of_mem (List.mem_filter.mpr ⟨h, by simp⟩)
  rw [appliedBy_run, appliedIn.eq_def] at hmem
  split at hmem
  case h_1 status hphase => exact .inl (by simpa [← List.mem_singleton.mp hmem] using hphase)
  case h_2 status hphase => exact .inr (by simpa [← List.mem_singleton.mp hmem] using hphase)
  case h_3 => simp at hmem

/-- The last application wins, and what the panel holds is never torn. In every run the panel has
a status exactly if it has a time; both, and so the report, are those of the application that
came last, whatever order the tasks were started in. What a task applies is what its own check
found, and it ends with that. A task that ends with a status has applied it, once and nothing
else; a task that ends with nothing has applied nothing. -/
theorem last_application_wins (metrics : Option Metrics) (actions : List Action) :
    let start := initial metrics
    let panel := start.run actions
    let applied := start.applications actions
    (panel.status.isSome ↔ panel.checkedAt.isSome) ∧
    panel.status = applied.getLast?.map Application.status ∧
    panel.checkedAt = applied.getLast?.map Application.time ∧
    (∀ docsUrl, panel.report docsUrl =
      .ofStatus (applied.getLast?.map Application.status) (applied.getLast?.map Application.time)
        docsUrl) ∧
    (∀ application, application ∈ applied ↔ start.Occurs (Applies application) actions) ∧
    (∀ application, application ∈ applied →
      start.Occurs (Finds application.task application.status) actions ∧
      (panel.phase? application.task = some (.applied application.status) ∨
        panel.result? application.task = some (some application.status))) ∧
    (∀ task status, panel.result? task = some (some status) →
      ∃ time, applied.filter (·.task = task) = [⟨task, status, time⟩]) ∧
    ∀ task, panel.result? task = some none → applied.filter (·.task = task) = [] := by
  intro start panel applied
  obtain ⟨hstatus, hchecked⟩ : panel.Holds applied.getLast? := holds_run metrics actions
  have hresult : ∀ task result, panel.result? task = some result →
      appliedBy task applied = result.toList := by
    intro task result h
    rw [appliedBy_run, result?_eq_some_iff.mp h]
    cases result <;> rfl
  refine ⟨?_, hstatus, hchecked, ?_, fun _ => mem_applications_iff, ?_, ?_, ?_⟩
  · rw [hstatus, hchecked, Option.isSome_map, Option.isSome_map]
  · intro docsUrl
    rw [report, hstatus, hchecked]
  · intro application happlied
    rcases phase?_of_mem_applications happlied with hphase | hphase
    · exact ⟨occurs_finds metrics actions hphase (.inr (.inl rfl)), .inl hphase⟩
    · exact ⟨occurs_finds metrics actions hphase (.inr (.inr rfl)),
        .inr (result?_eq_some_iff.mpr hphase)⟩
  · intro task status h
    exact exists_filter_eq_singleton (hresult task _ h)
  · intro task h
    exact List.map_eq_nil_iff.mp (hresult task _ h)

/-- Three tasks: the second overtakes the first, and the third comes after a teardown. -/
def overtaken : List Action :=
  [.activate, .activate, .activate, .start 0, .start 1, .start 2, .resolve 1 .error,
    .apply 1 ⟨5, 0⟩, .resolve 2 .error, .resolve 0 .unreachable, .apply 0 ⟨7, 0⟩, .teardown,
    .apply 2 ⟨9, 0⟩, .record 1 (.ofSeconds 0), .record 0 (.ofSeconds 0)]

/-- The first task came last and wins, the third has applied nothing. -/
theorem last_application_wins_overtaken :
    let panel := (initial none).run overtaken
    let applied := (initial none).applications overtaken
    panel.status = some .unreachable ∧ panel.checkedAt = some ⟨7, 0⟩ ∧
      panel.result? 1 = some (some .error) ∧
      (∃ time, applied.filter (·.task = 1) = [⟨1, .error, time⟩]) ∧
      panel.result? 2 = some none ∧ applied.filter (·.task = 2) = [] ∧
      (⟨1, .error, ⟨5, 0⟩⟩ : Application) ∈ applied ∧
      (initial none).Occurs (Finds 1 .error) overtaken := by
  intro panel applied
  obtain ⟨-, hstatus, hchecked, -, -, hfound, hsome, hnone⟩ := last_application_wins none overtaken
  have hfirst : panel.result? 1 = some (some .error) := rfl
  have hthird : panel.result? 2 = some none := rfl
  have happlied : (⟨1, .error, ⟨5, 0⟩⟩ : Application) ∈ applied := .head _
  exact ⟨hstatus, hchecked, hfirst, hsome 1 _ hfirst, hthird, hnone 2 hthird, happlied,
    (hfound _ happlied).1⟩

end Panel

end HealthPanel
