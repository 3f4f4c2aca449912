import HealthPanel.Proofs.Program.ExitCode

/-!
# What the printed metrics count

The metrics of a run count its one activation, as the state that the report shows, exactly if the
task has recorded how it went by the time the main line gathers the metrics. Without a signal the
main line waits for that. After a signal it does not wait: it may gather before the task has
recorded, and then the exposition counts nothing.
-/

namespace HealthPanel

/-- The outcome under which a probe is counted that leads to the report. -/
def Report.outcome (report : Report) : String :=
  if report.state = "checking" then Metrics.cancelled else report.state

/-- The metrics count one activation once: one series has the value one, that of the outcome, and
the histogram has counted the probe if it has resolved and nothing otherwise. -/
def Metrics.CountsOnce (metrics : Metrics) (outcome : String) (resolved : Prop) : Prop :=
  metrics.checks.filter (·.2 = 1) = [(outcome, 1)] ∧
    (resolved → metrics.times.count = 1) ∧ (¬resolved → metrics.times.count = 0)

/-- Nothing is counted at first. -/
theorem Metrics.not_countsOnce_empty (outcome : String) (resolved : Prop) :
    ¬Metrics.empty.CountsOnce outcome resolved := by
  intro h
  simp [CountsOnce, Metrics.empty] at h

/-- The state of a report is none of the placeholder if there is a status. -/
theorem Report.outcome_ofStatus (status : Option Status) (time : Option Instant)
    (docsUrl : String) :
    (Report.ofStatus status time docsUrl).outcome = status.elim Metrics.cancelled Status.label := by
  cases status with
  | none => rfl
  | some status => cases status <;> rfl

namespace Session

variable {found : Status} {resolved recorded : Prop} {phase : Phase} {status : Option Status}
  {time : Option Instant} {metrics : Metrics}

/-- Once the task has recorded, the metrics count it as what the panel shows of it. -/
theorem Reflects.countsOnce_iff (h : Reflects found resolved recorded phase status time metrics)
    (docsUrl : String) :
    metrics.CountsOnce (Report.ofStatus status time docsUrl).outcome resolved ↔ recorded := by
  rw [Report.outcome_ofStatus]
  cases h with
  | recorded hr hm =>
    refine iff_of_true ⟨?_, fun _ => rfl, fun hnot => absurd hr hnot⟩ hm
    rfl
  | cancelled hr hm =>
    refine iff_of_true ⟨?_, fun h => absurd h hr, fun _ => rfl⟩ hm
    rfl
  | spawned _ hm | probing _ hm | resolved _ hm | applied _ hm | interrupted _ hm
  | discarded _ hm => exact iff_of_false (Metrics.not_countsOnce_empty _ _) hm

/-- Before the task has recorded, the metrics are empty. -/
theorem Reflects.metrics_eq (h : Reflects found resolved recorded phase status time metrics)
    (hm : ¬recorded) : metrics = .empty := by
  cases h with
  | recorded _ h | cancelled _ h => exact absurd h hm
  | _ => rfl

/-- A task that has ended with its status has recorded it. -/
theorem Reflects.recorded_of_ended
    (h : Reflects found resolved recorded (.ended (some found)) status time metrics) :
    recorded := by
  cases h with
  | recorded _ hm => exact hm

/-- A signal arrives after the request, and the main line gathers the metrics before the task has
looked at the signal. -/
def hasty : List Move :=
  [.task .start, .listen, .stop, .proceed, .proceed, .proceed]

/-- A hasty run prints the placeholder and empty metrics. -/
theorem output?_hasty (probe : Probe) (result : Except ProbeFailure Payload) (id : String)
    (wantsMetrics : Bool) :
    ((start probe result id wantsMetrics).run hasty).output? =
      some ⟨.ofStatus none none probe.endpoint.docsUrl,
        if wantsMetrics then some .empty else none⟩ := by
  rfl

/-- An interrupted run prints the placeholder, and the cancellation in its metrics. -/
theorem output?_interrupted (probe : Probe) (result : Except ProbeFailure Payload) (id : String)
    (wantsMetrics : Bool) (elapsed : Span) :
    ((start probe result id wantsMetrics).run (interrupted elapsed)).output? =
      some ⟨.ofStatus none none probe.endpoint.docsUrl,
        if wantsMetrics then some Metrics.empty.recordCancelled else none⟩ := by
  rfl

/-- In an interrupted run the task records its cancellation. -/
theorem records_interrupted (probe : Probe) (result : Except ProbeFailure Payload) (id : String)
    (wantsMetrics : Bool) (elapsed : Span) :
    (start probe result id wantsMetrics).Occurs Records (interrupted elapsed) :=
  ⟨[.task .start, .listen, .stop, .proceed, .task .look], .task (.record elapsed),
    [.proceed, .proceed], rfl, rfl, ⟨_, rfl⟩, .inl rfl⟩

end Session

namespace Program

/-- What the printed metrics count. Every run with metrics that gets past the configuration prints
a report and metrics of which this holds: the metrics count the one activation, as the state that
the report shows and in the histogram if and only if the probe has resolved, exactly if the task
comes to record how it went before the run has finished. Otherwise they count nothing at all. And
without a signal to stop the task always comes to record. -/
theorem counted_once_iff_recorded (words : List String) (arguments : Arguments)
    (environment : String → Option String)
    (files : String → Except UnreadableFile (List UInt8)) (filters : Log.Filters)
    (network : Http.Network) (id time : String) (moves : List Move) (config : Config) (exit : Exit)
    (given : CommandLine.read words = .ok (.probe arguments)) (wanted : arguments.metrics = true)
    (starts : StartsWith arguments environment files filters config)
    (ended : run words ⟨environment, files, filters, network⟩ id time moves = some exit) :
    let first := session arguments config network id
    ∃ report metrics, exit.stdout = Output.text ⟨report, some metrics⟩ arguments.json ∧
      (metrics.CountsOnce report.outcome (first.Occurs Session.Resolves moves) ↔
        first.Occurs Session.Records moves) ∧
      (¬first.Occurs Session.Records moves → metrics = .empty) ∧
      (.stop ∉ moves → first.Occurs Session.Records moves) := by
  intro first
  obtain ⟨output, houtput, hstdout⟩ := exists_output_of_run given starts ended
  obtain ⟨phase, status, instant, metrics, rfl, how, reflects⟩ :=
    Session.exists_reflects_of_output? houtput
  rw [wanted, if_pos rfl] at hstdout
  refine ⟨_, metrics, hstdout, reflects.countsOnce_iff _, reflects.metrics_eq, fun hquiet => ?_⟩
  obtain rfl := how.resolve_right hquiet
  exact reflects.recorded_of_ended

/-- A probe that learns of the signal before the main line gathers the metrics is counted as
cancelled. -/
theorem counted_once_iff_recorded_interrupted :
    let arguments : Arguments := ⟨none, none, none, none, false, true⟩
    let environment (name : String) : Option String :=
      if name = filterVariable then some "" else none
    let files (_ : String) : Except UnreadableFile (List UInt8) := .error .missing
    let filters : Log.Filters := Log.Filter.ofText .plain
    let moves := Session.interrupted (.ofSeconds 1)
    let first := session arguments .default .silent ""
    CommandLine.read ["--metrics"] = .ok (.probe arguments) ∧
    StartsWith arguments environment files filters .default ∧
    first.Occurs Session.Records moves ∧
    ∃ exit report metrics,
      run ["--metrics"] ⟨environment, files, filters, .silent⟩ "" "" moves = some exit ∧
      exit.stdout = Output.text ⟨report, some metrics⟩ false ∧
      metrics.CountsOnce report.outcome (first.Occurs Session.Resolves moves) := by
  intro arguments environment files filters moves first
  have hread : CommandLine.read ["--metrics"] = .ok (.probe arguments) := rfl
  have hstarts : StartsWith arguments environment files filters .default :=
    ⟨.default, rfl, rfl, Config.validate_default, _, chooseFilter_of_empty rfl⟩
  obtain ⟨exit, hexit, -⟩ := exists_exit_of_output? hread hstarts
    (Session.output?_interrupted _ _ _ _ _)
  obtain ⟨report, metrics, hstdout, hcounts, -⟩ := counted_once_iff_recorded ["--metrics"] arguments
    environment files filters .silent "" "" moves .default exit hread rfl hstarts hexit
  have hrecords : first.Occurs Session.Records moves := Session.records_interrupted _ _ _ _ _
  exact ⟨hread, hstarts, hrecords, exit, report, metrics, hexit, hstdout, hcounts.mpr hrecords⟩

/-- When the signal arrives after the request, the main line can print the placeholder and metrics
that count no outcome whatever, because it does not wait for the task to record its
cancellation. -/
theorem gathered_before_recorded :
    let arguments : Arguments := ⟨none, none, none, none, false, true⟩
    let environment (name : String) : Option String :=
      if name = filterVariable then some "" else none
    let files (_ : String) : Except UnreadableFile (List UInt8) := .error .missing
    let filters : Log.Filters := Log.Filter.ofText .plain
    CommandLine.read ["--metrics"] = .ok (.probe arguments) ∧
    StartsWith arguments environment files filters .default ∧
    ((session arguments .default .silent "").run [.task .start]).hasAsked = true ∧
    ∃ exit report,
      run ["--metrics"] ⟨environment, files, filters, .silent⟩ "" "" Session.hasty = some exit ∧
      exit.stdout = Output.text ⟨report, some .empty⟩ false ∧ report.state = "checking" ∧
      ∀ outcome resolved, ¬Metrics.empty.CountsOnce outcome resolved := by
  intro arguments environment files filters
  have hread : CommandLine.read ["--metrics"] = .ok (.probe arguments) := rfl
  have hstarts : StartsWith arguments environment files filters .default :=
    ⟨.default, rfl, rfl, Config.validate_default, _, chooseFilter_of_empty rfl⟩
  obtain ⟨exit, hexit, hstdout⟩ := exists_exit_of_output? hread hstarts
    (Session.output?_hasty _ _ _ _)
  exact ⟨hread, hstarts, Session.hasAsked_start _ _ _ _, exit, _, hexit, hstdout, rfl,
    Metrics.not_countsOnce_empty⟩

end Program

end HealthPanel
