import HealthPanel.Proofs.Program.Course
import Mathlib.Order.WellFounded

/-!
# Every run comes to its end

Every move takes a run on or leaves it waiting for the same kind of move, and a move of that kind
takes it on. So a run is over at some time if no kind of move is put off for ever, whatever the
backend does and whenever a signal arrives: the probe comes to its end by its time limit, if not
before. It is then finished, unless a signal has ended the process before anybody listened for it.
-/

namespace HealthPanel

/-- The steps that a task in some phase still has to take, at most. -/
def Phase.remaining : Phase → Nat
  | spawned _ => 4
  | probing _ => 3
  | resolved _ => 2
  | applied _ | interrupted => 1
  | ended _ => 0

/-- The steps that the main line still has to take, at most. -/
def Stage.remaining : Stage → Nat
  | waiting => 4
  | stopping => 3
  | reporting => 2
  | gathering _ => 1
  | finished _ | killed => 0

namespace Session

variable {session : Session} {move : Move}

/-! ## One move -/

/-- The steps that a run still has to take, at most. -/
def remaining (session : Session) : Nat :=
  session.stage.remaining + (session.panel.phase? 0).elim 0 Phase.remaining

/-- A move takes a run on: it is the next step of the task while the main line waits for it, and
otherwise the next step of the main line. -/
def TakesOn (session : Session) (move : Move) : Prop :=
  match session.stage, session.panel.phase? 0 with
  | .waiting, some (.spawned _) => move = .task .start
  | .waiting, some (.probing _) => move = .task .resolve
  | .waiting, some (.resolved _) => ∃ now, move = .task (.apply now)
  | .waiting, some (.applied _) => ∃ elapsed, move = .task (.record elapsed)
  | .waiting, some .interrupted => ∃ elapsed, move = .task (.record elapsed)
  | _, _ => move = .proceed

/-- Two runs wait for the same move. -/
def Alike (session other : Session) : Prop :=
  other.remaining = session.remaining ∧ other.isRunning = session.isRunning ∧
    other.TakesOn = session.TakesOn

/-- Only the stage and the phase of the task say what a run waits for. -/
theorem Alike.of_eq {other : Session} (stage : other.stage = session.stage)
    (phase : other.panel.phase? 0 = session.panel.phase? 0) : session.Alike other := by
  refine ⟨?_, ?_, ?_⟩
  · rw [remaining, stage, phase, remaining]
  · rw [isRunning, stage, isRunning]
  · funext move
    rw [TakesOn, stage, phase, TakesOn]

/-- A move of the task takes the run on, or the task goes on waiting. -/
theorem remaining_taskMove {other : Session} {action : Action} {old new : Task}
    (move : Panel.TaskMove session.panel 0 action old new) (stage : other.stage = session.stage)
    (before : session.panel.phase? 0 = some old.phase)
    (after : other.panel.phase? 0 = some new.phase) :
    other.remaining < session.remaining ∨ session.Alike other := by
  cases move with
  | wait goesOn =>
    refine .inr ⟨?_, ?_, ?_⟩
    · simp [remaining, stage, before, after, Phase.remaining]
    · rw [isRunning, stage, isRunning]
    · funext move
      rw [TakesOn, TakesOn, stage, before, after]
      cases session.stage <;> rfl
  | refuse | ask | resolve | giveUp | write | discard | recordCheck | recordCancelled =>
    left
    simp [remaining, stage, before, after, Phase.remaining]

/-- A step of the task takes the run on or leaves it waiting for the same move. -/
theorem remaining_taskStep (session : Session) (step : TaskStep) :
    (session.act (.task step)).remaining < session.remaining ∨
      session.Alike (session.act (.task step)) := by
  have hchange := (Panel.transition_step session.panel (session.action step)).taskChange 0
  have hphase : (session.act (.task step)).panel.phase? 0 =
      (session.panel.step (session.action step)).tasks[0]?.map Task.phase := rfl
  generalize (session.panel.step (session.action step)).tasks[0]? = entry at hchange hphase
  cases hchange with
  | same => exact .inr (.of_eq rfl hphase)
  | new _ activates => cases step <;> simp [action] at activates
  | moved hold move => exact remaining_taskMove move rfl (by simp [Panel.phase?, hold]) hphase

/-- Tearing a panel down does nothing to its tasks. -/
theorem phase?_teardown (panel : Panel) (task : Nat) :
    (panel.step .teardown).phase? task = panel.phase? task := by
  have htransition := Panel.transition_step panel .teardown
  generalize panel.step .teardown = later at htransition
  cases htransition <;> rfl

/-- Raising the signal of a panel does nothing to its tasks. -/
theorem phase?_raise (panel : Panel) (call task : Nat) :
    (panel.step (.raise call)).phase? task = panel.phase? task := by
  have htransition := Panel.transition_step panel (.raise call)
  generalize panel.step (.raise call) = later at htransition
  cases htransition <;> rfl

/-- A signal that ends the process takes the run on, and so does one that the main line has waited
for. Any other changes nothing. -/
theorem remaining_stop (running : session.isRunning = true) :
    session.stop.remaining < session.remaining ∨ session.Alike session.stop := by
  rw [stop]
  split
  case h_1 =>
    left
    cases hstage : session.stage with
    | finished | killed => simp [isRunning, hstage] at running
    | waiting | stopping | reporting | gathering => simp [remaining, hstage, Stage.remaining]
  case h_2 stage => exact .inl (by simp [remaining, stage, Stage.remaining, phase?_teardown])
  case h_3 => exact .inr (.of_eq rfl rfl)

/-- The next step of the main line takes the run on, or it waits for the task. -/
theorem remaining_proceed (session : Session) :
    session.proceed.remaining < session.remaining ∨ session.Alike session.proceed := by
  rw [proceed]
  split
  case h_1 stage =>
    split
    case isTrue => exact .inl (by simp [remaining, stage, Stage.remaining])
    case isFalse => exact .inr (.of_eq rfl rfl)
  case h_2 stage => exact .inl (by simp [remaining, stage, Stage.remaining, phase?_raise])
  case h_3 stage => exact .inl (by simp [remaining, stage, Stage.remaining])
  case h_4 report stage =>
    refine .inl ?_
    simp [remaining, stage, Stage.remaining, Panel.tearDown, phase?_raise, phase?_teardown]
  case h_5 | h_6 => exact .inr (.of_eq rfl rfl)

/-- Every move takes the run on or leaves it waiting for the same move. -/
theorem remaining_step (session : Session) (move : Move) :
    (session.step move).remaining < session.remaining ∨ session.Alike (session.step move) := by
  cases hrunning : session.isRunning with
  | false => exact .inr (by rw [step_of_over hrunning]; exact .of_eq rfl rfl)
  | true =>
    rw [step_of_running hrunning]
    cases move with
    | task step => exact session.remaining_taskStep step
    | listen =>
      refine .inr ?_
      rw [act, listen]
      split <;> exact .of_eq rfl rfl
    | stop => exact remaining_stop hrunning
    | proceed => exact session.remaining_proceed

/-- The step that a task waits for takes it on. -/
theorem remaining_taskStep_lt {step : TaskStep} {old new : Task}
    (entry : session.panel.tasks[0]? = some old)
    (move : Panel.TaskMove session.panel 0 (session.action step) old new)
    (less : new.phase.remaining < old.phase.remaining) :
    (session.act (.task step)).remaining < session.remaining := by
  have hafter := move.getElem?_step entry
  simp [remaining, act, Panel.phase?, entry, hafter, less]

/-- The move that a run waits for takes it on. -/
theorem TakesOn.remaining_lt (takesOn : session.TakesOn move)
    (running : session.isRunning = true) {phase : Phase}
    (present : session.panel.phase? 0 = some phase) :
    (session.step move).remaining < session.remaining := by
  rw [step_of_running running]
  obtain ⟨asked, hentry⟩ := Panel.phase?_eq_some_iff.mp present
  rw [TakesOn, present] at takesOn
  cases hstage : session.stage with
  | waiting =>
    rw [hstage] at takesOn
    cases phase with
    | spawned seen =>
      obtain rfl : move = .task .start := takesOn
      cases hraised : session.panel.signal.isRaised with
      | true => exact remaining_taskStep_lt hentry (.refuse hraised) (by simp [Phase.remaining])
      | false => exact remaining_taskStep_lt hentry (.ask hraised) (by simp [Phase.remaining])
    | probing seen =>
      obtain rfl : move = .task .resolve := takesOn
      exact remaining_taskStep_lt hentry .resolve (by simp [Phase.remaining])
    | resolved status =>
      obtain ⟨now, rfl⟩ : ∃ now, move = .task (.apply now) := takesOn
      cases hactive : session.panel.isActive with
      | true => exact remaining_taskStep_lt hentry (.write hactive) (by simp [Phase.remaining])
      | false => exact remaining_taskStep_lt hentry (.discard hactive) (by simp [Phase.remaining])
    | applied status =>
      obtain ⟨elapsed, rfl⟩ : ∃ elapsed, move = .task (.record elapsed) := takesOn
      exact remaining_taskStep_lt hentry .recordCheck (by simp [Phase.remaining])
    | interrupted =>
      obtain ⟨elapsed, rfl⟩ : ∃ elapsed, move = .task (.record elapsed) := takesOn
      exact remaining_taskStep_lt hentry .recordCancelled (by simp [Phase.remaining])
    | ended result =>
      obtain rfl : move = .proceed := takesOn
      have hended : session.panel.result? 0 = some result := Panel.result?_eq_some_iff.mpr present
      simp [act, proceed, hstage, hended, remaining, Stage.remaining]
  | stopping =>
    rw [hstage] at takesOn
    obtain rfl : move = .proceed := takesOn
    simp [act, proceed, hstage, remaining, Stage.remaining, phase?_raise]
  | reporting =>
    rw [hstage] at takesOn
    obtain rfl : move = .proceed := takesOn
    simp [act, proceed, hstage, remaining, Stage.remaining]
  | gathering report =>
    rw [hstage] at takesOn
    obtain rfl : move = .proceed := takesOn
    simp [act, proceed, hstage, remaining, Stage.remaining, Panel.tearDown, phase?_raise,
      phase?_teardown]
  | finished | killed => simp [isRunning, hstage] at running

/-! ## Fair schedules -/

/-- A kind of move comes again and again. -/
def Recurs (schedule : Nat → Move) (kind : Move → Prop) : Prop :=
  ∀ n, ∃ m, n ≤ m ∧ kind (schedule m)

/-- A schedule that puts nothing off for ever: the main line and the task come to take each of
their steps, and the probe comes to its end. Signals to stop may arrive at any time, or never. -/
structure IsFair (schedule : Nat → Move) : Prop where
  proceeds : Recurs schedule (· = .proceed)
  starts : Recurs schedule (· = .task .start)
  resolves : Recurs schedule (· = .task .resolve)
  applies : Recurs schedule fun move => ∃ now, move = .task (.apply now)
  records : Recurs schedule fun move => ∃ elapsed, move = .task (.record elapsed)

/-- The schedule in which the steps of the task and of the main line take turns. -/
def turns (now : Instant) (elapsed : Span) (n : Nat) : Move :=
  match n % 5 with
  | 0 => .task .start
  | 1 => .task .resolve
  | 2 => .task (.apply now)
  | 3 => .task (.record elapsed)
  | _ => .proceed

/-- Taking turns is fair. -/
theorem isFair_turns (now : Instant) (elapsed : Span) : IsFair (turns now elapsed) where
  starts n := ⟨5 * n, by omega, by simp [turns]⟩
  resolves n := ⟨5 * n + 1, by omega, by simp [turns]⟩
  applies n := ⟨5 * n + 2, by omega, now, by simp [turns]⟩
  records n := ⟨5 * n + 3, by omega, elapsed, by simp [turns]⟩
  proceeds n := ⟨5 * n + 4, by omega, by simp [turns]⟩

/-- The first moves of a schedule. -/
def firstMoves (schedule : Nat → Move) (n : Nat) : List Move :=
  (List.range n).map schedule

variable {schedule : Nat → Move}

/-- The first moves of a schedule are made one by one. -/
theorem run_firstMoves_succ (session : Session) (schedule : Nat → Move) (n : Nat) :
    session.run (firstMoves schedule (n + 1)) =
      (session.run (firstMoves schedule n)).step (schedule n) := by
  rw [firstMoves, List.range_succ, List.map_append, List.map_singleton, run_concat, firstMoves]

/-- When the task and the main line take turns, no signal arrives. -/
theorem stop_notMem_firstMoves_turns (now : Instant) (elapsed : Span) (n : Nat) :
    .stop ∉ firstMoves (turns now elapsed) n := by
  intro h
  obtain ⟨m, -, hm⟩ := List.mem_map.mp h
  rw [turns] at hm
  split at hm <;> cases hm

/-- What a run waits for comes at some time. -/
theorem IsFair.exists_takesOn (fair : IsFair schedule) (session : Session) (n : Nat) :
    ∃ m, n ≤ m ∧ session.TakesOn (schedule m) := by
  unfold TakesOn
  split
  · exact fair.starts n
  · exact fair.resolves n
  · exact fair.applies n
  · exact fair.records n
  · exact fair.records n
  · exact fair.proceeds n

/-- As long as a run is not taken on, it waits for the same move. -/
theorem alike_of_le {n m : Nat} (h : n ≤ m)
    (stuck : ∀ k, (session.run (firstMoves schedule n)).remaining ≤
      (session.run (firstMoves schedule k)).remaining) :
    (session.run (firstMoves schedule n)).Alike (session.run (firstMoves schedule m)) := by
  induction m, h using Nat.le_induction with
  | base => exact ⟨rfl, rfl, rfl⟩
  | succ m _ ih =>
    have hstuck := stuck (m + 1)
    rw [run_firstMoves_succ] at hstuck ⊢
    rcases remaining_step (session.run (firstMoves schedule m)) (schedule m) with hless | halike
    · rw [ih.1] at hless
      omega
    · exact ⟨halike.1.trans ih.1, halike.2.1.trans ih.2.1, halike.2.2.trans ih.2.2⟩

/-- A run that is not over has its task. -/
theorem Standing.exists_phase {stopped resolved recorded : Prop}
    (h : Standing stopped resolved recorded session) (running : session.isRunning = true) :
    ∃ phase, session.panel.phase? 0 = some phase := by
  cases h with
  | waiting _ _ shows | reporting _ _ shows | gathering _ _ shows => exact shows.exists_phase
  | stopping _ _ _ shows => exact shows.exists_phase
  | finished stage | killed stage => simp [isRunning, stage] at running

/-- Under a fair schedule every run is over at some time. -/
theorem IsFair.exists_over (fair : IsFair schedule) (probe : Probe)
    (result : Except ProbeFailure Payload) (id : String) (wantsMetrics : Bool) :
    ∃ n, ((start probe result id wantsMetrics).run (firstMoves schedule n)).isRunning = false := by
  let state (n : Nat) : Session := (start probe result id wantsMetrics).run (firstMoves schedule n)
  by_contra hnever
  have running (n : Nat) : (state n).isRunning = true :=
    Bool.eq_true_of_not_eq_false fun ended => hnever ⟨n, ended⟩
  have hless (n : Nat) : ∃ m, (state m).remaining < (state n).remaining := by
    by_contra hstuck
    have hstuck (m : Nat) : (state n).remaining ≤ (state m).remaining :=
      Nat.le_of_not_lt fun hlt => hstuck ⟨m, hlt⟩
    obtain ⟨m, hle, htakesOn⟩ := fair.exists_takesOn (state n) n
    obtain ⟨hremaining, -, hsame⟩ := alike_of_le hle hstuck
    rw [← hsame] at htakesOn
    obtain ⟨phase, hphase⟩ :=
      (standing_run probe result id wantsMetrics (firstMoves schedule m)).exists_phase (running m)
    have hlt := htakesOn.remaining_lt (running m) hphase
    rw [← run_firstMoves_succ, hremaining] at hlt
    exact absurd hlt (Nat.not_lt.mpr (hstuck (m + 1)))
  -- The steps that remain cannot become fewer for ever.
  obtain ⟨m, hm⟩ := hless (Function.argmin fun n => (state n).remaining)
  exact Function.not_lt_argmin (fun n => (state n).remaining) m hm

/-! ## Signals that nobody listens for -/

/-- A signal to stop arrives while the process goes on, and nobody listens for it. -/
def Strikes (session : Session) (move : Move) : Prop :=
  session.isRunning = true ∧ session.listens = false ∧ move = .stop

/-- A move ends the process exactly if it is a signal that nobody listens for. -/
theorem stage_step_eq_killed_iff :
    (session.step move).stage = .killed ↔ session.stage = .killed ∨ Strikes session move := by
  cases hrunning : session.isRunning with
  | false => simp [step_of_over hrunning, Strikes, hrunning]
  | true =>
    have halive : session.stage ≠ .killed := fun killed => by simp [isRunning, killed] at hrunning
    rw [step_of_running hrunning]
    cases move with
    | task step => simp [act, Strikes, halive]
    | listen =>
      rw [act, listen]
      split <;> simp [Strikes, halive]
    | stop =>
      rw [act, stop]
      split <;> simp [Strikes, *]
    | proceed =>
      have hproceed : session.proceed.stage ≠ .killed := by
        rw [proceed]
        split
        case h_1 => split <;> simp [halive]
        all_goals simp [halive]
      simp [act, Strikes, halive, hproceed]

/-- A run has been ended by a signal exactly if one has arrived that nobody listened for. -/
theorem stage_run_eq_killed_iff (probe : Probe) (result : Except ProbeFailure Payload)
    (id : String) (wantsMetrics : Bool) (moves : List Move) :
    ((start probe result id wantsMetrics).run moves).stage = .killed ↔
      (start probe result id wantsMetrics).Occurs Strikes moves := by
  induction moves using List.reverseRecOn with
  | nil => simp [run, start, not_occurs_nil]
  | append_singleton moves last ih =>
    rw [run_concat, stage_step_eq_killed_iff, ih, occurs_concat]

/-- What a signal has ended prints nothing any more. -/
theorem output?_of_occurs_strikes {probe : Probe} {result : Except ProbeFailure Payload}
    {id : String} {wantsMetrics : Bool} {moves : List Move}
    (struck : (start probe result id wantsMetrics).Occurs Strikes moves) :
    ((start probe result id wantsMetrics).run moves).output? = none := by
  rw [output?, (stage_run_eq_killed_iff probe result id wantsMetrics moves).mpr struck]

/-- What is over has finished, unless a signal has ended it. -/
theorem exists_output_of_over (ended : session.isRunning = false)
    (alive : session.stage ≠ .killed) : ∃ output, session.output? = some output := by
  cases hstage : session.stage with
  | finished output => exact ⟨output, by rw [Session.output?, hstage]⟩
  | killed => exact absurd hstage alive
  | waiting | stopping | reporting | gathering => simp [isRunning, hstage] at ended

/-- Under a fair schedule every run finishes in which no signal arrives before somebody listens
for it. -/
theorem IsFair.exists_output (fair : IsFair schedule) (probe : Probe)
    (result : Except ProbeFailure Payload) (id : String) (wantsMetrics : Bool)
    (spared : ∀ n,
      ¬(start probe result id wantsMetrics).Occurs Strikes (firstMoves schedule n)) :
    ∃ n output,
      ((start probe result id wantsMetrics).run (firstMoves schedule n)).output? = some output := by
  obtain ⟨n, hended⟩ := fair.exists_over probe result id wantsMetrics
  have halive := mt (stage_run_eq_killed_iff probe result id wantsMetrics _).mp (spared n)
  exact ⟨n, exists_output_of_over hended halive⟩

/-- Only a signal strikes. -/
theorem not_occurs_strikes {start : Session} {moves : List Move} (quiet : .stop ∉ moves) :
    ¬start.Occurs Strikes moves := by
  rintro ⟨before, move, after, rfl, -, -, rfl⟩
  simp at quiet

/-- The task asks the backend when it starts. -/
theorem hasAsked_start (probe : Probe) (result : Except ProbeFailure Payload) (id : String)
    (wantsMetrics : Bool) :
    ((start probe result id wantsMetrics).run [.task .start]).hasAsked = true := by
  rfl

end Session

end HealthPanel
