import HealthPanel.Metrics
import HealthPanel.Panel.Signal
import HealthPanel.Report

/-!
# The status panel

A panel holds the status that was applied last. Every activation starts a task, which checks the
backend, writes what it found while the panel is active, and records it in the metrics. Tearing
the panel down makes it inactive and then raises a signal, on which the tasks that still wait give
up. The tasks and the calls of a teardown take their steps in any order, so a run is a list of
actions; an action that cannot be taken changes nothing.
-/

namespace HealthPanel

/-- Where a task stands. -/
inductive Phase
  /-- It has not run yet; what its listener has seen. -/
  | spawned (seen : Nat)
  /-- Its request is under way. -/
  | probing (seen : Nat)
  /-- It knows the status, and wants to write it. -/
  | resolved (status : Status)
  /-- It has written the status, and wants to record it. -/
  | applied (status : Status)
  /-- It has given up, and wants to record that. -/
  | interrupted
  /-- It has ended, with the status that it has written, if any. -/
  | ended (result : Option Status)

/-- A task of the panel. -/
structure Task where
  phase : Phase
  /-- Whether it has come to send its request. -/
  asked : Bool

/-- Where a call of a teardown stands. -/
inductive TeardownPhase
  /-- It has made the panel inactive, and has to raise the signal. -/
  | raising
  | returned
  deriving DecidableEq

/-- A panel with its tasks and the calls of its teardown, in the order in which they were made. -/
structure Panel where
  status : Option Status
  checkedAt : Option Instant
  isActive : Bool
  /-- Whether there still is a panel to activate, tear down and read. -/
  isDropped : Bool
  signal : Signal
  metrics : Option Metrics
  tasks : List Task
  teardowns : List TeardownPhase

/-- What may happen to a panel next. -/
inductive Action
  | activate
  /-- A task runs for the first time. -/
  | start (task : Nat)
  /-- The check of a task ends. -/
  | resolve (task : Nat) (status : Status)
  /-- A task looks at the signal. -/
  | look (task : Nat)
  /-- A task writes what it found. -/
  | apply (task : Nat) (now : Instant)
  /-- A task records how it went. -/
  | record (task : Nat) (elapsed : Span)
  /-- Somebody calls for a teardown, which makes the panel inactive. -/
  | teardown
  /-- A call of a teardown raises the signal. -/
  | raise (call : Nat)
  /-- The panel is dropped, which raises the signal for the last time. It cannot be dropped while
  a call of a teardown is under way. -/
  | drop
  /-- Somebody reads the counter of an outcome, which shows it from then on. -/
  | readCounter (outcome : String)

namespace Panel

/-- A panel that nothing has happened to. -/
def initial (metrics : Option Metrics) : Panel :=
  { status := none, checkedAt := none, isActive := true, isDropped := false
    signal := .initial false, metrics := metrics, tasks := [], teardowns := [] }

/-- The phase of a task. -/
def phase? (panel : Panel) (task : Nat) : Option Phase :=
  panel.tasks[task]?.map Task.phase

/-- Puts a task into a phase. -/
def setPhase (panel : Panel) (task : Nat) (phase : Phase) : Panel :=
  { panel with tasks := panel.tasks.modify task fun old => { old with phase } }

/-- Starts a task: under a raised signal it gives up, else it sends its request. -/
def startTask (panel : Panel) (task seen : Nat) : Panel :=
  if panel.signal.isRaised then panel.setPhase task .interrupted
  else { panel with tasks := panel.tasks.modify task fun _ => ⟨.probing seen, true⟩ }

/-- Writes the status that a task found, unless the panel is inactive. -/
def applyTask (panel : Panel) (task : Nat) (status : Status) (now : Instant) : Panel :=
  if panel.isActive then
    { panel.setPhase task (.applied status) with status := some status, checkedAt := some now }
  else panel.setPhase task (.ended none)

/-- Makes the panel inactive, or returns at once if it is so already. -/
def beginTeardown (panel : Panel) : Panel :=
  if panel.isActive then
    { panel with isActive := false, teardowns := panel.teardowns ++ [.raising] }
  else { panel with teardowns := panel.teardowns ++ [.returned] }

/-- Raises the signal. -/
def raiseSignal (panel : Panel) : Panel :=
  { panel with signal := panel.signal.after (.set true) }

/-- The panel after an action. -/
def step (panel : Panel) : Action → Panel
  | .activate =>
    if panel.isDropped then panel
    else { panel with tasks := panel.tasks ++ [⟨.spawned panel.signal.version, false⟩] }
  | .start task =>
    match panel.phase? task with
    | some (.spawned seen) => panel.startTask task seen
    | _ => panel
  | .resolve task status =>
    match panel.phase? task with
    | some (.probing _) => panel.setPhase task (.resolved status)
    | _ => panel
  | .look task =>
    match panel.phase? task with
    | some (.probing seen) =>
      match panel.signal.look seen with
      | (true, _) => panel.setPhase task .interrupted
      | (false, seen) => panel.setPhase task (.probing seen)
    | _ => panel
  | .apply task now =>
    match panel.phase? task with
    | some (.resolved status) => panel.applyTask task status now
    | _ => panel
  | .record task elapsed =>
    match panel.phase? task with
    | some (.applied status) =>
      { panel.setPhase task (.ended (some status)) with
        metrics := panel.metrics.map (·.record status elapsed) }
    | some .interrupted =>
      { panel.setPhase task (.ended none) with
        metrics := panel.metrics.map Metrics.recordCancelled }
    | _ => panel
  | .teardown => if panel.isDropped then panel else panel.beginTeardown
  | .raise call =>
    match panel.teardowns[call]? with
    | some .raising =>
      { panel.raiseSignal with teardowns := panel.teardowns.set call .returned }
    | _ => panel
  | .drop =>
    if panel.isDropped ∨ .raising ∈ panel.teardowns then panel
    else
      let panel := panel.raiseSignal
      { panel with signal := panel.signal.after .close, isDropped := true }
  | .readCounter outcome =>
    { panel with metrics := panel.metrics.map fun metrics => (metrics.read outcome).2 }

/-- The panel after actions one after another. -/
def run (panel : Panel) (actions : List Action) : Panel :=
  actions.foldl step panel

/-- Actions in two parts are taken one part after the other. -/
theorem run_append (panel : Panel) (actions later : List Action) :
    panel.run (actions ++ later) = (panel.run actions).run later :=
  List.foldl_append

/-- The report of what the panel holds. -/
def report (panel : Panel) (docsUrl : String) : Report :=
  .ofStatus panel.status panel.checkedAt docsUrl

/-- The result of a task that has ended. -/
def result? (panel : Panel) (task : Nat) : Option (Option Status) :=
  match panel.phase? task with
  | some (.ended result) => some result
  | _ => none

/-! ## Undisturbed runs -/

/-- The actions of a task whose check ends in a status as soon as it asks. -/
def settle (task : Nat) (status : Status) (now : Instant) (elapsed : Span) : List Action :=
  [.start task, .resolve task status, .apply task now, .record task elapsed]

/-- The actions of a task that only learns of the signal. -/
def interrupt (task : Nat) (elapsed : Span) : List Action :=
  [.start task, .look task, .record task elapsed]

/-- A teardown that nothing comes in between. -/
def tearDown (panel : Panel) : Panel :=
  (panel.step .teardown).step (.raise panel.teardowns.length)

end Panel

end HealthPanel
