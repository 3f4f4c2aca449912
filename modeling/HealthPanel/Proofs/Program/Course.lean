import HealthPanel.Program.Session
import HealthPanel.Proofs.Panel.Teardown
import Mathlib.Data.List.Induction

/-!
# The course of a run

A run has one task, and what its panel shows can be read off the phase of this task. The main line
takes the report only when the task has ended with its status, or after it has made the panel
inactive; from then on the panel shows the same, so that the report is still right when the
metrics are gathered. What is printed is therefore a view of the panel at one moment.
-/

namespace HealthPanel.Session

variable {session : Session} {panel later : Panel} {found : Status}
  {stopped resolved recorded : Prop}

/-! ## What occurs in a run -/

/-- At some moment of a run the state and the move made in it are as `event` says. -/
def Occurs (start : Session) (event : Session → Move → Prop) (moves : List Move) : Prop :=
  ∃ before move after, moves = before ++ move :: after ∧ event (start.run before) move

/-- Nothing occurs before the first move. -/
theorem not_occurs_nil {start : Session} {event : Session → Move → Prop} :
    ¬start.Occurs event [] := by
  intro hparts
  obtain ⟨before, move, after, h, -⟩ := hparts
  simp at h

/-- What occurs in a run occurs before its last move or with it. -/
theorem occurs_concat {start : Session} {event : Session → Move → Prop} {moves : List Move}
    {last : Move} :
    start.Occurs event (moves ++ [last]) ↔
      start.Occurs event moves ∨ event (start.run moves) last :=
  Panel.exists_parts_concat fun before move => event (start.run before) move

/-- The check of the task ends, and the process goes on. -/
def Resolves (session : Session) (move : Move) : Prop :=
  session.isRunning = true ∧ move = .task .resolve ∧
    ∃ seen, session.panel.phase? 0 = some (.probing seen)

/-- The task records how it went, and the process goes on. -/
def Records (session : Session) (move : Move) : Prop :=
  session.isRunning = true ∧ (∃ elapsed, move = .task (.record elapsed)) ∧
    (session.panel.phase? 0 = some .interrupted ∨
      ∃ status, session.panel.phase? 0 = some (.applied status))

/-! ## What a panel shows of its task -/

/-- What a panel shows of a task in some phase whose check ends in the status `found`: the status
and the time that it holds, and its metrics. `resolved` and `recorded` say whether the check has
ended, and whether the task has recorded how it went. -/
inductive Reflects (found : Status) (resolved recorded : Prop) :
    Phase → Option Status → Option Instant → Metrics → Prop
  | spawned {seen : Nat} (hr : ¬resolved) (hm : ¬recorded) :
    Reflects found resolved recorded (.spawned seen) none none .empty
  | probing {seen : Nat} (hr : ¬resolved) (hm : ¬recorded) :
    Reflects found resolved recorded (.probing seen) none none .empty
  | resolved (hr : resolved) (hm : ¬recorded) :
    Reflects found resolved recorded (.resolved found) none none .empty
  | applied {now : Instant} (hr : resolved) (hm : ¬recorded) :
    Reflects found resolved recorded (.applied found) (some found) (some now) .empty
  | interrupted (hr : ¬resolved) (hm : ¬recorded) :
    Reflects found resolved recorded .interrupted none none .empty
  | recorded {now : Instant} {elapsed : Span} (hr : resolved) (hm : recorded) :
    Reflects found resolved recorded (.ended (some found)) (some found) (some now)
      (Metrics.empty.record found elapsed)
  | cancelled (hr : ¬resolved) (hm : recorded) :
    Reflects found resolved recorded (.ended none) none none Metrics.empty.recordCancelled
  | discarded (hr : resolved) (hm : ¬recorded) :
    Reflects found resolved recorded (.ended none) none none .empty

/-- A panel shows its task as it should. -/
def Shows (found : Status) (resolved recorded : Prop) (panel : Panel) : Prop :=
  ∃ phase status time metrics, panel.phase? 0 = some phase ∧ panel.status = status ∧
    panel.checkedAt = time ∧ panel.metrics = some metrics ∧
      Reflects found resolved recorded phase status time metrics

/-- A panel that shows its task has it. -/
theorem Shows.exists_phase (shows : Shows found resolved recorded panel) :
    ∃ phase, panel.phase? 0 = some phase := by
  obtain ⟨phase, _, _, _, hphase, -⟩ := shows
  exact ⟨phase, hphase⟩

/-- What shows the same task shows it as well. -/
theorem Shows.congr (shows : Shows found resolved recorded panel)
    (tasks : later.tasks = panel.tasks) (status : later.status = panel.status)
    (checkedAt : later.checkedAt = panel.checkedAt) (metrics : later.metrics = panel.metrics) :
    Shows found resolved recorded later := by
  obtain ⟨phase, _, _, shown, hphase, hstatus, htime, hmetrics, h⟩ := shows
  exact ⟨phase, _, _, shown, by rw [Panel.phase?, tasks]; exact hphase, status.trans hstatus,
    checkedAt.trans htime, metrics.trans hmetrics, h⟩

/-- A step of the task that changes nothing leaves what the panel shows. -/
theorem Shows.idle (shows : Shows found resolved recorded panel) {resolves records : Prop}
    (same : later = panel) (hr : ¬resolves) (hm : ¬records) :
    Shows found (resolved ∨ resolves) (recorded ∨ records) later := by
  simpa only [same, hr, hm, or_false] using shows

/-- A step of the task changes what the panel shows as it changes the phase of the task. Where the
step does not fit the phase, it changes nothing. -/
theorem Shows.step (running : session.isRunning = true)
    (shows : Shows (.ofResult session.result) resolved recorded session.panel) (step : TaskStep) :
    Shows (.ofResult session.result) (resolved ∨ Resolves session (.task step))
      (recorded ∨ Records session (.task step)) (session.panel.step (session.action step)) := by
  have hshows := shows
  obtain ⟨phase, status, time, metrics, hphase, hstatus, htime, hmetrics, h⟩ := shows
  obtain ⟨asked, hentry⟩ := Panel.phase?_eq_some_iff.mp hphase
  have hset (next : Phase) : (session.panel.setPhase 0 next).phase? 0 = some next := by
    simp [Panel.phase?, Panel.getElem?_tasks_setPhase, hentry]
  cases step with
  | start =>
    cases h with
    | @spawned seen hr hm =>
      simp only [action, Panel.step, hphase, Panel.startTask]
      split
      case isTrue =>
        exact ⟨_, _, _, _, hset _, hstatus, htime, hmetrics,
          .interrupted (by simp [hr, Resolves]) (by simp [hm, Records])⟩
      case isFalse =>
        refine ⟨.probing seen, _, _, _, ?_, hstatus, htime, hmetrics,
          .probing (by simp [hr, Resolves]) (by simp [hm, Records])⟩
        simp [Panel.phase?, hentry]
    | _ =>
      exact hshows.idle (by simp [action, Panel.step, hphase]) (by simp [Resolves])
        (by simp [Records])
  | resolve =>
    cases h with
    | @probing seen hr hm =>
      simp only [action, Panel.step, hphase]
      exact ⟨_, _, _, _, hset _, hstatus, htime, hmetrics,
        .resolved (.inr ⟨running, rfl, seen, hphase⟩) (by simp [hm, Records])⟩
    | _ =>
      exact hshows.idle (by simp [action, Panel.step, hphase]) (by simp [Resolves, hphase])
        (by simp [Records])
  | look =>
    cases h with
    | @probing seen hr hm =>
      simp only [action, Panel.step, hphase]
      split
      case h_1 =>
        exact ⟨_, _, _, _, hset _, hstatus, htime, hmetrics,
          .interrupted (by simp [hr, Resolves]) (by simp [hm, Records])⟩
      case h_2 =>
        exact ⟨_, _, _, _, hset _, hstatus, htime, hmetrics,
          .probing (by simp [hr, Resolves]) (by simp [hm, Records])⟩
    | _ =>
      exact hshows.idle (by simp [action, Panel.step, hphase]) (by simp [Resolves])
        (by simp [Records])
  | apply now =>
    cases h with
    | resolved hr hm =>
      simp only [action, Panel.step, hphase, Panel.applyTask]
      split
      case isTrue =>
        exact ⟨_, _, _, _, hset _, rfl, rfl, hmetrics, .applied (.inl hr) (by simp [hm, Records])⟩
      case isFalse =>
        exact ⟨_, _, _, _, hset _, hstatus, htime, hmetrics,
          .discarded (.inl hr) (by simp [hm, Records])⟩
    | _ =>
      exact hshows.idle (by simp [action, Panel.step, hphase]) (by simp [Resolves])
        (by simp [Records])
  | record elapsed =>
    cases h with
    | applied hr hm =>
      simp only [action, Panel.step, hphase, hmetrics, Option.map_some]
      exact ⟨_, _, _, _, hset _, hstatus, htime, rfl,
        .recorded (.inl hr) (.inr ⟨running, ⟨elapsed, rfl⟩, .inr ⟨_, hphase⟩⟩)⟩
    | interrupted hr hm =>
      simp only [action, Panel.step, hphase, hmetrics, Option.map_some]
      exact ⟨_, _, _, _, hset _, hstatus, htime, rfl,
        .cancelled (by simp [hr, Resolves]) (.inr ⟨running, ⟨elapsed, rfl⟩, .inl hphase⟩)⟩
    | _ =>
      exact hshows.idle (by simp [action, Panel.step, hphase]) (by simp [Resolves])
        (by simp [Records, hphase])

/-! ## Where the main line stands -/

/-- Nobody has asked the task to stop. -/
structure IsQuiet (panel : Panel) : Prop where
  present : panel.isDropped = false
  active : panel.isActive = true
  signal : panel.signal = .initial false
  awake : ∃ phase, panel.phase? 0 = some phase ∧ phase ≠ .interrupted ∧ phase ≠ .ended none

/-- A listener of a signal that has not been set goes on. -/
theorem look_initial (seen : Nat) : ((Signal.initial false).look seen).1 = false := by
  simp [Signal.look, Signal.initial]

/-- A task that nobody has asked to stop neither gives up nor finds its panel inactive. -/
theorem IsQuiet.awake_of_taskMove (quiet : IsQuiet panel) {action : Action} {old new : Task}
    (move : Panel.TaskMove panel 0 action old new)
    (awake : old.phase ≠ .interrupted ∧ old.phase ≠ .ended none) :
    new.phase ≠ .interrupted ∧ new.phase ≠ .ended none := by
  cases move with
  | refuse raised => simp [quiet.signal, Signal.initial] at raised
  | giveUp stops => simp [quiet.signal, look_initial] at stops
  | discard inactive => simp [quiet.active] at inactive
  | recordCancelled => exact absurd rfl awake.1
  | ask | resolve | wait | write | recordCheck => simp

/-- Nobody asks the task to stop in a step of its own. -/
theorem IsQuiet.step (quiet : IsQuiet panel) (session : Session) (step : TaskStep) :
    IsQuiet (panel.step (session.action step)) := by
  have htransition := Panel.transition_step panel (session.action step)
  have hawake := htransition.keeps_phase quiet.awake_of_taskMove quiet.awake
  obtain ⟨present, active, signal, -⟩ := quiet
  generalize panel.step (session.action step) = later at htransition hawake
  cases step <;> cases htransition <;> exact ⟨present, active, signal, hawake⟩

/-- A task that nobody has asked to stop ends with the status that its check has found. -/
theorem Shows.phase?_of_ended (shows : Shows found resolved recorded panel) (quiet : IsQuiet panel)
    {result : Option Status} (ended : panel.phase? 0 = some (.ended result)) :
    panel.phase? 0 = some (.ended (some found)) := by
  obtain ⟨phase, status, time, metrics, hphase, -, -, -, reflects⟩ := shows
  obtain ⟨other, hother, -, hawake⟩ := quiet.awake
  obtain rfl : phase = other := Option.some.inj (hphase.symm.trans hother)
  obtain rfl : phase = .ended result := Option.some.inj (hphase.symm.trans ended)
  cases reflects with
  | recorded => exact hphase
  | cancelled | discarded => exact absurd rfl hawake

/-- The task has written its status and recorded it, or the panel is inactive, so that no task
can write any more. -/
def IsSettled (found : Status) (stopped : Prop) (panel : Panel) : Prop :=
  panel.phase? 0 = some (.ended (some found)) ∨ panel.isActive = false ∧ stopped

/-- A settled panel stays settled and holds the same after every step of the task. -/
theorem IsSettled.step (settled : IsSettled found stopped panel) (session : Session)
    (step : TaskStep) :
    IsSettled found stopped (panel.step (session.action step)) ∧
      (panel.step (session.action step)).status = panel.status ∧
      (panel.step (session.action step)).checkedAt = panel.checkedAt := by
  rcases settled with hended | ⟨inactive, hstopped⟩
  · have hsame : panel.step (session.action step) = panel := by
      cases step <;> simp [action, Panel.step, hended]
    rw [hsame]
    exact ⟨.inl hended, rfl, rfl⟩
  · obtain ⟨hstatus, htime, hinactive⟩ := (Panel.transition_step panel _).frozen inactive
    exact ⟨.inr ⟨hinactive, hstopped⟩, hstatus, htime⟩

/-- Where a run stands: what the panel shows is right, the report is that of the panel as long as
the main line has it, and what is printed in the end was all shown at one moment. `stopped` says
whether a signal to stop has arrived. Of a run that a signal has ended nothing is left to say. -/
inductive Standing (stopped resolved recorded : Prop) (session : Session) : Prop
  | waiting (stage : session.stage = .waiting) (quiet : IsQuiet session.panel)
    (shows : Shows (.ofResult session.result) resolved recorded session.panel)
  | stopping (stage : session.stage = .stopping) (inactive : session.panel.isActive = false)
    (told : stopped) (shows : Shows (.ofResult session.result) resolved recorded session.panel)
  | reporting (stage : session.stage = .reporting)
    (settled : IsSettled (.ofResult session.result) stopped session.panel)
    (shows : Shows (.ofResult session.result) resolved recorded session.panel)
  | gathering
    (stage : session.stage = .gathering (session.panel.report session.probe.endpoint.docsUrl))
    (settled : IsSettled (.ofResult session.result) stopped session.panel)
    (shows : Shows (.ofResult session.result) resolved recorded session.panel)
  | finished {phase : Phase} {status : Option Status} {time : Option Instant} {metrics : Metrics}
    (stage : session.stage = .finished ⟨.ofStatus status time session.probe.endpoint.docsUrl,
      if session.wantsMetrics then some metrics else none⟩)
    (how : phase = .ended (some (.ofResult session.result)) ∨ stopped)
    (reflects : Reflects (.ofResult session.result) resolved recorded phase status time metrics)
  | killed (stage : session.stage = .killed)

/-- A run that has just activated its panel waits for the task. -/
theorem standing_start (probe : Probe) (result : Except ProbeFailure Payload) (id : String)
    (wantsMetrics : Bool) :
    Standing False False False (start probe result id wantsMetrics) :=
  .waiting rfl ⟨rfl, rfl, rfl, .spawned 0, rfl, by simp⟩
    ⟨.spawned 0, none, none, .empty, rfl, rfl, rfl, rfl, .spawned not_false not_false⟩

/-- A step of the task keeps up where the run stands. -/
theorem Standing.taskStep (h : Standing stopped resolved recorded session)
    (running : session.isRunning = true) (step : TaskStep) :
    Standing stopped (resolved ∨ Resolves session (.task step))
      (recorded ∨ Records session (.task step)) (session.act (.task step)) := by
  cases h with
  | waiting stage quiet shows =>
    exact .waiting stage (quiet.step session step) (shows.step running step)
  | stopping stage inactive told shows =>
    have hfrozen := (Panel.transition_step session.panel (session.action step)).frozen inactive
    exact .stopping stage hfrozen.2.2 told (shows.step running step)
  | reporting stage settled shows =>
    exact .reporting stage (settled.step session step).1 (shows.step running step)
  | gathering stage settled shows =>
    obtain ⟨hsettled, hstatus, htime⟩ := settled.step session step
    refine .gathering ?_ hsettled (shows.step running step)
    simp only [act, stage, Panel.report, hstatus, htime]
  | finished stage | killed stage => simp [isRunning, stage] at running

/-- A signal to stop makes the panel inactive if the main line still waits and listens, and ends
the process if nobody listens. -/
theorem Standing.stop (h : Standing stopped resolved recorded session) :
    Standing True resolved recorded session.stop := by
  cases hlistens : session.listens with
  | false =>
    simp only [Session.stop, hlistens]
    exact .killed rfl
  | true =>
    cases h with
    | waiting stage quiet shows =>
      obtain ⟨present, active, -, -⟩ := quiet
      have hstop : session.stop =
          { session with
            panel := { session.panel with
              isActive := false, teardowns := session.panel.teardowns ++ [.raising] }
            stage := .stopping } := by
        simp [Session.stop, hlistens, stage, Panel.step, present, Panel.beginTeardown, active]
      rw [hstop]
      exact .stopping rfl rfl trivial (shows.congr rfl rfl rfl rfl)
    | stopping stage inactive told shows =>
      simp only [Session.stop, hlistens, stage]
      exact .stopping stage inactive trivial shows
    | reporting stage settled shows =>
      simp only [Session.stop, hlistens, stage]
      exact .reporting stage (settled.imp_right (And.imp_right fun _ => trivial)) shows
    | gathering stage settled shows =>
      simp only [Session.stop, hlistens, stage]
      exact .gathering stage (settled.imp_right (And.imp_right fun _ => trivial)) shows
    | finished stage how reflects =>
      simp only [Session.stop, hlistens, stage]
      exact .finished stage (.inr trivial) reflects
    | killed stage =>
      simp only [Session.stop, hlistens, stage]
      exact .killed stage

/-- Nothing that is shown depends on whether somebody listens for signals. -/
theorem Standing.listen (h : Standing stopped resolved recorded session) :
    Standing stopped resolved recorded session.listen := by
  rw [Session.listen]
  split
  case h_1 hwaiting =>
    cases h with
    | waiting stage quiet shows => exact .waiting stage quiet shows
    | stopping stage | reporting stage | gathering stage | finished stage | killed stage =>
      cases hwaiting.symm.trans stage
  case h_2 => exact h

/-- The main line goes on only when the panel shows what it needs. -/
theorem Standing.proceed (h : Standing stopped resolved recorded session) :
    Standing stopped resolved recorded session.proceed := by
  rw [Session.proceed]
  cases h with
  | waiting stage quiet shows =>
    rw [stage]
    dsimp only
    split
    case isTrue hended =>
      obtain ⟨result, hresult⟩ := Option.isSome_iff_exists.mp hended
      have hphase := Panel.result?_eq_some_iff.mp hresult
      exact .reporting rfl (.inl (shows.phase?_of_ended quiet hphase)) shows
    case isFalse => exact .waiting stage quiet shows
  | stopping stage inactive told shows =>
    rw [stage]
    have htransition := Panel.transition_step session.panel (.raise 0)
    generalize session.panel.step (.raise 0) = later at htransition
    cases htransition <;> exact .reporting rfl (.inr ⟨inactive, told⟩) (shows.congr rfl rfl rfl rfl)
  | reporting stage settled shows =>
    rw [stage]
    exact .gathering rfl settled shows
  | gathering stage settled shows =>
    rw [stage]
    obtain ⟨phase, status, time, metrics, hphase, hstatus, htime, hmetrics, reflects⟩ := shows
    refine .finished ?_ (settled.imp ?_ And.right) reflects
    · simp only [Panel.report, hstatus, htime, hmetrics]
    · exact fun hended => Option.some.inj (hphase.symm.trans hended)
  | finished stage how reflects =>
    rw [stage]
    exact .finished stage how reflects
  | killed stage =>
    rw [stage]
    exact .killed stage

/-- Where a run stands when it is over, it stands after every signal. -/
theorem Standing.of_over (h : Standing stopped resolved recorded session)
    (ended : session.isRunning = false) {told : Prop} :
    Standing (stopped ∨ told) resolved recorded session := by
  cases h with
  | waiting stage | stopping stage | reporting stage | gathering stage =>
    simp [isRunning, stage] at ended
  | finished stage how reflects => exact .finished stage (how.imp_right .inl) reflects
  | killed stage => exact .killed stage

/-! ## Whole runs -/

/-- The last move is made after all others. -/
theorem run_concat (session : Session) (moves : List Move) (move : Move) :
    session.run (moves ++ [move]) = (session.run moves).step move := by
  rw [run_append]
  rfl

/-- A move changes nothing about what the run is for. -/
theorem step_constant (session : Session) (move : Move) :
    (session.step move).probe = session.probe ∧ (session.step move).result = session.result ∧
      (session.step move).wantsMetrics = session.wantsMetrics := by
  rw [step]
  split
  case isTrue =>
    cases move with
    | task => exact ⟨rfl, rfl, rfl⟩
    | listen =>
      rw [act, listen]
      split <;> exact ⟨rfl, rfl, rfl⟩
    | stop =>
      rw [act, stop]
      split <;> exact ⟨rfl, rfl, rfl⟩
    | proceed =>
      rw [act, proceed]
      split <;> first | exact ⟨rfl, rfl, rfl⟩ | (split <;> exact ⟨rfl, rfl, rfl⟩)
  case isFalse => exact ⟨rfl, rfl, rfl⟩

/-- Moves change nothing about what the run is for. -/
theorem run_constant (session : Session) (moves : List Move) :
    (session.run moves).probe = session.probe ∧ (session.run moves).result = session.result ∧
      (session.run moves).wantsMetrics = session.wantsMetrics := by
  induction moves using List.reverseRecOn with
  | nil => exact ⟨rfl, rfl, rfl⟩
  | append_singleton moves last ih =>
    obtain ⟨hprobe, hresult, hwants⟩ := step_constant (session.run moves) last
    rw [run_concat, hprobe, hresult, hwants]
    exact ih

/-- Every move keeps up where the run stands. -/
theorem Standing.step (h : Standing stopped resolved recorded session) (move : Move) :
    Standing (stopped ∨ move = .stop) (resolved ∨ Resolves session move)
      (recorded ∨ Records session move) (session.step move) := by
  cases hrunning : session.isRunning with
  | false => simpa [step_of_over hrunning, Resolves, Records, hrunning] using h.of_over hrunning
  | true =>
    rw [step_of_running hrunning]
    cases move with
    | task step => simpa using h.taskStep hrunning step
    | listen => simpa [Resolves, Records, act] using h.listen
    | stop => simpa [Resolves, Records, act] using h.stop
    | proceed => simpa [Resolves, Records, act] using h.proceed

/-- In every run it is known where the run stands. -/
theorem standing_run (probe : Probe) (result : Except ProbeFailure Payload) (id : String)
    (wantsMetrics : Bool) (moves : List Move) :
    Standing (.stop ∈ moves) ((start probe result id wantsMetrics).Occurs Resolves moves)
      ((start probe result id wantsMetrics).Occurs Records moves)
      ((start probe result id wantsMetrics).run moves) := by
  induction moves using List.reverseRecOn with
  | nil =>
    simpa only [List.not_mem_nil, not_occurs_nil, run, List.foldl_nil] using
      standing_start probe result id wantsMetrics
  | append_singleton moves last ih =>
    simpa only [List.mem_append, List.mem_singleton, eq_comm, occurs_concat, run_concat] using
      ih.step last

/-- What a finished run prints is what its panel showed at one moment: the metrics of the task in
some phase, and the report on the status that it had written by then. Without a signal to stop the
task has ended with its status. -/
theorem exists_reflects_of_output? {probe : Probe} {result : Except ProbeFailure Payload}
    {id : String} {wantsMetrics : Bool} {moves : List Move} {output : Output}
    (h : ((start probe result id wantsMetrics).run moves).output? = some output) :
    ∃ phase status time metrics,
      output = ⟨.ofStatus status time probe.endpoint.docsUrl,
        if wantsMetrics then some metrics else none⟩ ∧
      (phase = .ended (some (.ofResult result)) ∨ .stop ∈ moves) ∧
      Reflects (.ofResult result) ((start probe result id wantsMetrics).Occurs Resolves moves)
        ((start probe result id wantsMetrics).Occurs Records moves) phase status time metrics := by
  obtain ⟨hprobe, hresult, hwants⟩ := run_constant (start probe result id wantsMetrics) moves
  cases standing_run probe result id wantsMetrics moves with
  | finished stage how reflects =>
    rw [hresult] at how reflects
    rw [hprobe, hwants] at stage
    rw [output?, stage, Option.some.injEq] at h
    exact ⟨_, _, _, _, h.symm, how, reflects⟩
  | waiting stage | stopping stage | reporting stage | gathering stage | killed stage =>
    simp [output?, stage] at h

end HealthPanel.Session
