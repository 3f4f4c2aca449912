import HealthPanel.Proofs.Program.Ending
import HealthPanel.Proofs.Program.Layering

/-!
# The exit code

Whether the program ends with a fault is decided before it does anything that can be seen: by the
command line, the environment and the files. What starts asks the backend, and then every course
of the run leads to a report and to the exit code zero, with one exception: nobody listens for
signals before the main line first looks what it waits for, and one that arrives earlier ends the
process without a report and without an exit code.
-/

namespace HealthPanel.Program

variable {words : List String} {arguments : Arguments} {surroundings : Surroundings}
  {environment : String → Option String} {files : String → Except UnreadableFile (List UInt8)}
  {filters : Log.Filters} {config : Config} {filter : Log.Filter} {network : Http.Network}
  {id time : String} {moves : List Move} {output : Output} {exit : Exit}

/-- The program starts with a configuration: that of the file or the default one is loaded and
valid, it is the configuration that the overrides make of it, it is valid too, and there is a
filter for the log. The network is not looked at. -/
def StartsWith (arguments : Arguments) (environment : String → Option String)
    (files : String → Except UnreadableFile (List UInt8)) (filters : Log.Filters)
    (config : Config) : Prop :=
  ∃ file, loadConfig arguments files = .ok file ∧
    file.override (overrides arguments environment) = config ∧ config.validate = .ok () ∧
      ∃ filter, chooseFilter environment filters config.logging = .ok filter

/-- What is prepared is what the program starts with. -/
theorem exists_prepare_iff :
    (∃ filter, prepare arguments surroundings = .ok (config, filter)) ↔
      StartsWith arguments surroundings.environment surroundings.files surroundings.filters
        config := by
  simp only [prepare_eq_ok_iff, StartsWith]
  constructor
  · rintro ⟨filter, file, hfile, hconfig, hvalid, hfilter⟩
    exact ⟨file, hfile, hconfig, hvalid, filter, hfilter⟩
  · rintro ⟨file, hfile, hconfig, hvalid, filter, hfilter⟩
    exact ⟨filter, file, hfile, hconfig, hvalid, hfilter⟩

/-- What starts with a configuration runs with it. -/
theorem exists_run_eq_conclude (given : CommandLine.read words = .ok (.probe arguments))
    (starts : StartsWith arguments environment files filters config) :
    ∃ filter, ∀ network id time moves,
      run words ⟨environment, files, filters, network⟩ id time moves =
        conclude arguments config filter network id time moves := by
  obtain ⟨file, hfile, hconfig, hvalid, filter, hfilter⟩ := starts
  refine ⟨filter, fun network id time moves => ?_⟩
  have hprepare : prepare arguments ⟨environment, files, filters, network⟩ = .ok (config, filter) :=
    prepare_eq_ok_iff.mpr ⟨file, hfile, hconfig, hvalid, hfilter⟩
  simp only [run, given, runProbe, hprepare]

/-- A run exits with the text of its output. -/
theorem exists_output_of_run (given : CommandLine.read words = .ok (.probe arguments))
    (starts : StartsWith arguments environment files filters config)
    (ended : run words ⟨environment, files, filters, network⟩ id time moves = some exit) :
    ∃ output, ((session arguments config network id).run moves).output? = some output ∧
      exit.stdout = output.text arguments.json := by
  obtain ⟨filter, hrun⟩ := exists_run_eq_conclude given starts
  obtain ⟨output, houtput, rfl⟩ := Option.map_eq_some_iff.mp ((hrun _ _ _ _).symm.trans ended)
  exact ⟨output, houtput, rfl⟩

/-- Once a run has its output, it exits with the text of it. -/
theorem exists_exit_of_output? (given : CommandLine.read words = .ok (.probe arguments))
    (starts : StartsWith arguments environment files filters config)
    (h : ((session arguments config network id).run moves).output? = some output) :
    ∃ exit, run words ⟨environment, files, filters, network⟩ id time moves = some exit ∧
      exit.stdout = output.text arguments.json := by
  obtain ⟨filter, hrun⟩ := exists_run_eq_conclude given starts
  exact ⟨_, (hrun _ _ _ _).trans (Option.map_eq_some_iff.mpr ⟨output, h, rfl⟩), rfl⟩

/-- A run without an output does not exit. -/
theorem run_of_output?_eq_none (given : CommandLine.read words = .ok (.probe arguments))
    (starts : StartsWith arguments environment files filters config)
    (h : ((session arguments config network id).run moves).output? = none) :
    run words ⟨environment, files, filters, network⟩ id time moves = none := by
  obtain ⟨filter, hrun⟩ := exists_run_eq_conclude given starts
  exact (hrun _ _ _ _).trans (Option.map_eq_none_iff.mpr h)

/-- Arguments that the program cannot start with end it before it prints or asks anything. -/
theorem exists_run_eq_failed (given : CommandLine.read words = .ok (.probe arguments))
    (h : ¬∃ config, StartsWith arguments environment files filters config) :
    ∃ fault,
      run words ⟨environment, files, filters, network⟩ id time moves = some (failed fault) := by
  cases hprepare : prepare arguments ⟨environment, files, filters, network⟩ with
  | error fault => exact ⟨fault, by simp only [run, given, runProbe, hprepare]⟩
  | ok started => exact absurd ⟨started.1, exists_prepare_iff.mp ⟨started.2, hprepare⟩⟩ h

/-- What a run prints in the end is a report on the status of the probe, or on none if a signal to
stop has arrived, and the metrics if they are asked for. -/
theorem exists_report_of_conclude
    (h : conclude arguments config filter network id time moves = some exit) :
    exit.code = 0 ∧ ∃ status instant metrics,
      exit.stdout =
        Output.text ⟨.ofStatus status instant config.endpoint.docsUrl, metrics⟩ arguments.json ∧
      (status = some ((probe config).check network) ∨ status = none ∧ .stop ∈ moves) ∧
      metrics.isSome = arguments.metrics := by
  obtain ⟨output, houtput, rfl⟩ := Option.map_eq_some_iff.mp h
  obtain ⟨phase, status, instant, metrics, rfl, how, reflects⟩ :=
    Session.exists_reflects_of_output? houtput
  refine ⟨rfl, status, instant, _, rfl, ?_, ?_⟩
  · cases reflects with
    | applied | recorded => exact .inl rfl
    | _ => exact .inr ⟨rfl, how.resolve_left (by simp)⟩
  · cases arguments.metrics <;> rfl

/-- The exit code is decided before the run. For every command line that is accepted: if the
program can start with a configuration, every run of it that exits has the exit code zero and has
printed a report, on the status that the probe found unless a signal to stop came first. A run
never exits once a signal has arrived before anybody listens for it, and it does exit under every
fair schedule without such a signal, on whatever network and whenever other signals arrive. If the
program cannot start, it ends with the exit code one, prints nothing on its standard output, and
sends no request. Whether it can start does not depend on the network. -/
theorem exit_code_decided (words : List String) (arguments : Arguments)
    (environment : String → Option String)
    (files : String → Except UnreadableFile (List UInt8)) (filters : Log.Filters)
    (network : Http.Network) (id time : String)
    (given : CommandLine.read words = .ok (.probe arguments)) :
    let run (moves : List Move) := run words ⟨environment, files, filters, network⟩ id time moves
    (∀ config, StartsWith arguments environment files filters config →
      let first := session arguments config network id
      (∀ moves exit, run moves = some exit →
        exit.code = 0 ∧ ∃ status instant metrics,
          exit.stdout =
            Output.text ⟨.ofStatus status instant config.endpoint.docsUrl, metrics⟩
              arguments.json ∧
          (status = some ((probe config).check network) ∨ status = none ∧ .stop ∈ moves) ∧
          metrics.isSome = arguments.metrics) ∧
      (∀ moves, first.Occurs Session.Strikes moves → run moves = none) ∧
      ∀ schedule, Session.IsFair schedule →
        (∀ n, ¬first.Occurs Session.Strikes (Session.firstMoves schedule n)) →
        ∃ n exit, run (Session.firstMoves schedule n) = some exit) ∧
    ((¬∃ config, StartsWith arguments environment files filters config) →
      ∀ moves, ∃ exit, run moves = some exit ∧
        exit.code = 1 ∧ exit.stdout = "" ∧ exit.requests = []) := by
  intro run
  constructor
  · intro config starts first
    refine ⟨fun moves exit h => ?_, fun moves struck => ?_, fun schedule fair spared => ?_⟩
    · obtain ⟨filter, hrun⟩ := exists_run_eq_conclude given starts
      exact exists_report_of_conclude ((hrun _ _ _ _).symm.trans h)
    · exact run_of_output?_eq_none given starts (Session.output?_of_occurs_strikes struck)
    · obtain ⟨n, output, houtput⟩ := fair.exists_output (probe config)
        ((probe config).fetch network) id arguments.metrics spared
      obtain ⟨exit, hexit, -⟩ := exists_exit_of_output? given starts houtput
      exact ⟨n, exit, hexit⟩
  · intro h moves
    obtain ⟨fault, hfailed⟩ := exists_run_eq_failed given h
    exact ⟨failed fault, hfailed, rfl, rfl, rfl⟩

/-- A backend that accepts the request and never answers is reported with the exit code zero. A
configuration file that is missing is not. -/
theorem exit_code_decided_silent :
    let environment (name : String) : Option String :=
      if name = filterVariable then some "" else none
    let files (_ : String) : Except UnreadableFile (List UInt8) := .error .missing
    let surroundings : Surroundings :=
      ⟨environment, files, Log.Filter.ofText .plain, .silent⟩
    let schedule := Session.turns ⟨0, 0⟩ (.ofSeconds 5)
    CommandLine.read [] = .ok (.probe ⟨none, none, none, none, false, false⟩) ∧
    StartsWith ⟨none, none, none, none, false, false⟩ environment files surroundings.filters
      .default ∧
    Session.IsFair schedule ∧
    (∃ n exit, run [] surroundings "" "" (Session.firstMoves schedule n) = some exit ∧
      exit.code = 0) ∧
    CommandLine.read ["-c", "panel.json"] =
      .ok (.probe ⟨some "panel.json", none, none, none, false, false⟩) ∧
    ∃ exit, run ["-c", "panel.json"] surroundings "" "" [] = some exit ∧ exit.code = 1 := by
  intro environment files surroundings schedule
  have hstarts : StartsWith ⟨none, none, none, none, false, false⟩ environment files
      surroundings.filters .default :=
    ⟨.default, rfl, rfl, Config.validate_default, _, chooseFilter_of_empty rfl⟩
  have hfair : Session.IsFair schedule := Session.isFair_turns _ _
  obtain ⟨hends, -, hfinishes⟩ := (exit_code_decided [] ⟨none, none, none, none, false, false⟩
    environment files surroundings.filters .silent "" "" rfl).1 .default hstarts
  obtain ⟨n, exit, hexit⟩ := hfinishes schedule hfair fun n =>
    Session.not_occurs_strikes (Session.stop_notMem_firstMoves_turns _ _ n)
  have hmissing : ¬∃ config, StartsWith ⟨some "panel.json", none, none, none, false, false⟩
      environment files surroundings.filters config := by
    rintro ⟨config, file, hfile, -⟩
    simp [loadConfig, ConfigFile.load, files, Except.mapError, bind, Except.bind] at hfile
  obtain ⟨failure, hfailure, hcode, -⟩ := (exit_code_decided ["-c", "panel.json"]
    ⟨some "panel.json", none, none, none, false, false⟩ environment files surroundings.filters
    .silent "" "" rfl).2 hmissing []
  exact ⟨rfl, hstarts, hfair, ⟨n, exit, hexit, (hends _ _ hexit).1⟩, rfl, failure, hfailure, hcode⟩

/-- When the task has already asked the backend, a signal can still arrive before anybody listens
for it. The program then prints no report and has no exit code, whatever would come next. -/
theorem killed_before_listening :
    let arguments : Arguments := ⟨none, none, none, none, false, false⟩
    let environment (name : String) : Option String :=
      if name = filterVariable then some "" else none
    let files (_ : String) : Except UnreadableFile (List UInt8) := .error .missing
    let filters : Log.Filters := Log.Filter.ofText .plain
    CommandLine.read [] = .ok (.probe arguments) ∧
    StartsWith arguments environment files filters .default ∧
    ((session arguments .default .silent "").run [.task .start]).hasAsked = true ∧
    ∀ later, run [] ⟨environment, files, filters, .silent⟩ "" ""
      (.task .start :: .stop :: later) = none := by
  intro arguments environment files filters
  have hread : CommandLine.read [] = .ok (.probe arguments) := rfl
  have hstarts : StartsWith arguments environment files filters .default :=
    ⟨.default, rfl, rfl, Config.validate_default, _, chooseFilter_of_empty rfl⟩
  exact ⟨hread, hstarts, Session.hasAsked_start _ _ _ _, fun later =>
    run_of_output?_eq_none hread hstarts (Session.output?_of_occurs_strikes
      ⟨[.task .start], .stop, later, rfl, rfl, rfl, rfl⟩)⟩

end HealthPanel.Program
