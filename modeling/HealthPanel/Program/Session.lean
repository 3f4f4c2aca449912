import HealthPanel.Health.Probe
import HealthPanel.Log.Line
import HealthPanel.Panel.Basic

/-!
# A run of the program

A run makes a panel and activates it once. Then two lines of work go on side by side: the task of
the panel, and the main line, which waits for the task to end or for a signal to stop, tears the
panel down in the second case, takes the report, gathers the metrics, and tears the panel down.
Each takes its steps in its own order and in any order with respect to the other, so a run is a
list of moves; a move that cannot be made changes nothing.

The main line comes to listen for signals only when it looks for the first time what it waits for,
and the task may be at work by then. A signal that arrives earlier ends the process.
-/

namespace HealthPanel

/-- What a run prints. -/
structure Output where
  report : Report
  /-- The metrics, if they are asked for. -/
  metrics : Option Metrics
  deriving DecidableEq

/-- What a run prints, as text. -/
def Output.text (output : Output) (json : Bool) : String :=
  (if json then output.report.toJson.pretty else output.report.text) ++ "\n"
    ++ output.metrics.elim "" Metrics.exposition

/-- Where the main line stands. -/
inductive Stage
  /-- It waits for the task to end or for a signal. -/
  | waiting
  /-- It has made the panel inactive, and has to raise the signal of the panel. -/
  | stopping
  /-- It has to take the report. -/
  | reporting
  /-- It has the report, and has to gather the metrics. -/
  | gathering (report : Report)
  | finished (output : Output)
  /-- A signal that nobody listened for has ended the process. -/
  | killed

/-- A step of the task. -/
inductive TaskStep
  | start
  | resolve
  | look
  | apply (now : Instant)
  | record (elapsed : Span)

/-- What may happen next in a run. -/
inductive Move
  | task (step : TaskStep)
  /-- The main line begins to listen for signals. -/
  | listen
  /-- A signal to stop arrives. -/
  | stop
  /-- The main line takes its next step. -/
  | proceed

/-- A run of the program. -/
structure Session where
  probe : Probe
  /-- How the probe ends if it is left alone. -/
  result : Except ProbeFailure Payload
  /-- The name of the activation in the log. -/
  id : String
  wantsMetrics : Bool
  panel : Panel
  stage : Stage
  /-- Whether somebody listens for signals. -/
  listens : Bool

namespace Session

/-- A run that has just activated its panel. -/
def start (probe : Probe) (result : Except ProbeFailure Payload) (id : String)
    (wantsMetrics : Bool) : Session :=
  { probe, result, id, wantsMetrics
    panel := (Panel.initial (some .empty)).step .activate
    stage := .waiting
    listens := false }

/-- Whether the process goes on. -/
def isRunning (session : Session) : Bool :=
  match session.stage with
  | .finished _ | .killed => false
  | .waiting | .stopping | .reporting | .gathering _ => true

/-- The step of a task as what happens to the panel. -/
def action (session : Session) : TaskStep → Action
  | .start => .start 0
  | .resolve => .resolve 0 (.ofResult session.result)
  | .look => .look 0
  | .apply now => .apply 0 now
  | .record elapsed => .record 0 elapsed

/-- The run after the next step of the main line, which waits until the task has ended. -/
def proceed (session : Session) : Session :=
  match session.stage with
  | .waiting =>
    if (session.panel.result? 0).isSome then { session with stage := .reporting } else session
  | .stopping => { session with panel := session.panel.step (.raise 0), stage := .reporting }
  | .reporting =>
    { session with stage := .gathering (session.panel.report session.probe.endpoint.docsUrl) }
  | .gathering report =>
    let metrics := if session.wantsMetrics then session.panel.metrics else none
    { session with panel := session.panel.tearDown, stage := .finished ⟨report, metrics⟩ }
  | .finished _ | .killed => session

/-- The run after the main line has begun to listen for signals, if it still waits. -/
def listen (session : Session) : Session :=
  match session.stage with
  | .waiting => { session with listens := true }
  | _ => session

/-- The run after a signal to stop, which ends the process if nobody listens. -/
def stop (session : Session) : Session :=
  match session.listens, session.stage with
  | false, _ => { session with stage := .killed }
  | true, .waiting => { session with panel := session.panel.step .teardown, stage := .stopping }
  | true, _ => session

/-- The run after a move that the process makes. -/
def act (session : Session) : Move → Session
  | .task step => { session with panel := session.panel.step (session.action step) }
  | .listen => session.listen
  | .stop => session.stop
  | .proceed => session.proceed

/-- The run after a move. A process that has ended makes none. -/
def step (session : Session) (move : Move) : Session :=
  if session.isRunning then session.act move else session

/-- As long as the process goes on, it makes the move. -/
theorem step_of_running {session : Session} (running : session.isRunning = true) (move : Move) :
    session.step move = session.act move :=
  if_pos running

/-- When the process has ended, no move changes anything. -/
theorem step_of_over {session : Session} (ended : session.isRunning = false) (move : Move) :
    session.step move = session := by
  simp [step, ended]

/-- The run after moves one after another. -/
def run (session : Session) (moves : List Move) : Session :=
  moves.foldl step session

/-- Moves in two parts are made one part after the other. -/
theorem run_append (session : Session) (moves later : List Move) :
    session.run (moves ++ later) = (session.run moves).run later :=
  List.foldl_append

/-- What a run that has finished prints. -/
def output? (session : Session) : Option Output :=
  match session.stage with
  | .finished output => some output
  | _ => none

/-- Whether the task has come to ask the backend. -/
def hasAsked (session : Session) : Bool :=
  session.panel.tasks.any (·.asked)

/-! ## Undisturbed and interrupted runs -/

/-- A run without a signal, in which the main line waits for the task. -/
def undisturbed (now : Instant) (elapsed : Span) : List Move :=
  [.task .start, .listen, .task .resolve, .task (.apply now), .task (.record elapsed), .proceed,
    .proceed, .proceed]

/-- A run in which the signal arrives after the request, and the task learns of it before the
main line takes the report. -/
def interrupted (elapsed : Span) : List Move :=
  [.task .start, .listen, .stop, .proceed, .task .look, .task (.record elapsed), .proceed,
    .proceed]

/-! ## The log of a run -/

/-- The target of what the program itself logs. -/
def mainTarget : String := "status_probe"

/-- The target of what a probe logs. -/
def probeTarget : String := "status_probe::health::probe"

/-- The target of what a panel logs. -/
def panelTarget : String := "status_probe::view::status_view"

/-- The activation that the task logs in. -/
def activation (session : Session) : Log.Activation :=
  ⟨session.id, session.probe.endpoint.healthUrl⟩

/-- A line that the task logs. -/
def taskLine (session : Session) (level : Log.Level) (target message : String) : Log.Line :=
  ⟨level, target, some session.activation, message⟩

/-- What is logged before the first move. -/
def openingLines (session : Session) : List Log.Line :=
  [⟨.info, mainTarget, none, "Probing " ++ session.probe.endpoint.healthUrl⟩,
    ⟨.info, mainTarget, none, "Activation " ++ session.id ++ " started"⟩]

/-- What is logged when the panel is torn down. -/
def tearDownLine : Log.Line :=
  ⟨.debug, panelTarget, none, "Status view torn down"⟩

/-- What a step of the task logs. -/
def taskLines (session : Session) (step : TaskStep) : List Log.Line :=
  let url := session.probe.endpoint.healthUrl
  match step, session.panel.phase? 0 with
  | .start, some (.spawned _) =>
    if session.panel.signal.isRaised then []
    else [session.taskLine .debug probeTarget ("Sending health request to " ++ url)]
  | .resolve, some (.probing _) =>
    match session.result with
    | .ok _ => []
    | .error failure =>
      [session.taskLine .warn probeTarget ("Health probe against " ++ url ++ " failed: "
        ++ failure.message TransportFault.message)]
  | .look, some (.probing seen) =>
    if (session.panel.signal.look seen).1 then
      [session.taskLine .debug probeTarget "Health probe cancelled"]
    else []
  | .apply _, some (.resolved status) =>
    if session.panel.isActive then []
    else [session.taskLine .debug panelTarget
      ("View torn down, discarding " ++ status.label ++ " result")]
  | .record elapsed, some (.applied status) =>
    [session.taskLine .info panelTarget
      ("API status resolved to " ++ status.label ++ " in " ++ elapsed.render)]
  | _, _ => []

/-- What a move logs. -/
def lines (session : Session) (move : Move) : List Log.Line :=
  match move, session.stage with
  | _, .finished _ | _, .killed => []
  | .task step, _ => session.taskLines step
  | .listen, _ => []
  | .stop, .waiting =>
    if session.listens then [⟨.info, mainTarget, none, "Shutdown signal received"⟩] else []
  | .stop, _ => []
  | .proceed, .stopping => [tearDownLine]
  | .proceed, .gathering _ => if session.panel.isActive then [tearDownLine] else []
  | .proceed, _ => []

/-- What moves log, one after another. -/
def journal (session : Session) : List Move → List Log.Line
  | [] => []
  | move :: moves => session.lines move ++ (session.step move).journal moves

end Session

end HealthPanel
