import HealthPanel.Proofs.Health.Classification
import HealthPanel.Proofs.Program.ExitCode
import HealthPanel.Proofs.Program.Masking

/-!
# What the output discloses

Whatever a backend does comes to the user through the status alone in which the probe ends, and of
this status only through its label and the three members of a payload that a report lists. Two
backends that lead to statuses alike in these lead to the same output, up to times.
-/

namespace HealthPanel

/-- Two statuses look the same to a user: the label and what the payload tells of the version, the
environment and the city. -/
structure Status.Alike (first second : Status) : Prop where
  label : first.label = second.label
  version : first.payload?.bind Payload.version = second.payload?.bind Payload.version
  environment : first.payload?.bind Payload.environment = second.payload?.bind Payload.environment
  city : first.payload?.bind Payload.city = second.payload?.bind Payload.city

/-- Statuses that look the same are reported the same. -/
theorem Status.Alike.report_eq {first second : Status} (alike : first.Alike second)
    (time : Option Instant) (docsUrl : String) :
    Report.ofStatus (some first) time docsUrl = Report.ofStatus (some second) time docsUrl := by
  obtain ⟨label, version, environment, city⟩ := alike
  cases first <;> cases second
  case connected.connected payload other =>
    simp only [payload?, Option.bind_some] at version environment city
    simp only [Report.ofStatus, Option.elim_some, Status.label, Status.indicator, payload?,
      Option.bind_some, Option.map_some, Details.ofPayload, version, environment, city]
  case error.error | unreachable.unreachable => rfl
  all_goals simp [Status.label] at label

/-- The metrics of one probe agree masked whatever time it took. -/
theorem masked_exposition_record {first second : Status} (label : first.label = second.label)
    (elapsed longer : Span) :
    masked (Metrics.empty.record first elapsed).exposition =
      masked (Metrics.empty.record second longer).exposition := by
  simp only [Metrics.record, label]
  exact masked_exposition _ (by simp [Metrics.empty, Histogram.observe]) rfl

/-- Statuses that look the same are printed the same, masked. -/
theorem Status.Alike.masked_text {first second : Status} (alike : first.Alike second)
    (now later : Instant) (elapsed longer : Span) (docsUrl : String) (wantsMetrics json : Bool) :
    masked (Output.text ⟨.ofStatus (some first) (some now) docsUrl,
        if wantsMetrics then some (Metrics.empty.record first elapsed) else none⟩ json) =
      masked (Output.text ⟨.ofStatus (some second) (some later) docsUrl,
        if wantsMetrics then some (Metrics.empty.record second longer) else none⟩ json) := by
  rw [alike.report_eq]
  refine HealthPanel.masked_text (.ofStatus (some second) none docsUrl) now later json ?_
  cases wantsMetrics with
  | false => simp only [Bool.false_eq_true, if_false]
  | true =>
    simp only [if_true, Option.elim_some]
    exact masked_exposition_record alike.label elapsed longer

/-- A network on which no byte ever comes in leaves every backend unreachable. -/
theorem Probe.check_of_no_answer (probe : Probe) {network : Http.Network}
    (h : ∀ earlier request, network.connection earlier request = .refused ∨
      network.connection earlier request = .accepted ⟨[], none⟩) :
    probe.check network = .unreachable := by
  cases hrequest : probe.request with
  | error fault =>
    rw [check, fetch, trace_of_error hrequest]
    rfl
  | ok request =>
    rw [check, fetch, trace_of_ok hrequest, send]
    have hconnect : connect network 0 request = .refused ∨
        connect network 0 request = .accepted ⟨[], none⟩ := by
      rw [connect]
      split
      · exact h 0 request
      · exact .inl rfl
    rcases hconnect with hrefused | haccepted
    · rw [hrefused]
      rfl
    · rw [haccepted]
      simp only [Http.Reply.await, Http.Reply.awaitPieces, Option.getD_none, expiry]
      split <;> rfl

/-- A run in which the main line waits for the task prints what the probe found. -/
theorem Session.output?_undisturbed (probe : Probe) (result : Except ProbeFailure Payload)
    (id : String) (wantsMetrics : Bool) (now : Instant) (elapsed : Span) :
    ((start probe result id wantsMetrics).run (undisturbed now elapsed)).output? =
      some ⟨.ofStatus (some (.ofResult result)) (some now) probe.endpoint.docsUrl,
        if wantsMetrics then some (Metrics.empty.record (.ofResult result) elapsed) else none⟩ := by
  rfl

namespace Program

variable {words : List String} {arguments : Arguments} {environment : String → Option String}
  {files : String → Except UnreadableFile (List UInt8)} {filters : Log.Filters} {config : Config}
  {network : Http.Network} {id time : String} {moves : List Move} {exit : Exit}

/-- Without a signal to stop a run prints the report on the status of the probe, and the metrics of
this one probe. -/
theorem exists_stdout_of_quiet (given : CommandLine.read words = .ok (.probe arguments))
    (starts : StartsWith arguments environment files filters config)
    (ended : run words ⟨environment, files, filters, network⟩ id time moves = some exit)
    (quiet : .stop ∉ moves) :
    let status := (probe config).check network
    ∃ now elapsed, exit.stdout =
      Output.text ⟨.ofStatus (some status) (some now) config.endpoint.docsUrl,
        if arguments.metrics then some (Metrics.empty.record status elapsed) else none⟩
        arguments.json := by
  obtain ⟨output, houtput, hstdout⟩ := exists_output_of_run given starts ended
  obtain ⟨phase, status, instant, metrics, rfl, how, reflects⟩ :=
    Session.exists_reflects_of_output? houtput
  obtain rfl := how.resolve_right quiet
  cases reflects with
  | recorded => exact ⟨_, _, hstdout⟩

/-- What cannot start prints nothing. -/
theorem stdout_of_not_startsWith (given : CommandLine.read words = .ok (.probe arguments))
    (h : ¬∃ config, StartsWith arguments environment files filters config)
    (ended : run words ⟨environment, files, filters, network⟩ id time moves = some exit) :
    exit.stdout = "" := by
  obtain ⟨fault, hfailed⟩ := exists_run_eq_failed given h
  obtain rfl := Option.some.inj (hfailed.symm.trans ended)
  rfl

/-- The output depends on the backend only through what is displayed. For every command line,
environment and set of files and every two networks: if the probe of the configuration that the
program starts with, should there be one, ends in statuses that look the same, then any two runs
without a signal to stop print the same on the two networks, masked, in whichever form and with or
without metrics. -/
theorem same_output_of_alike (words : List String) (environment : String → Option String)
    (files : String → Except UnreadableFile (List UInt8)) (filters : Log.Filters)
    (network other : Http.Network) (id otherId time otherTime : String)
    (moves otherMoves : List Move) (exit otherExit : Exit)
    (alike : ∀ arguments config, CommandLine.read words = .ok (.probe arguments) →
      StartsWith arguments environment files filters config →
      ((probe config).check network).Alike ((probe config).check other))
    (ended : run words ⟨environment, files, filters, network⟩ id time moves = some exit)
    (otherEnded :
      run words ⟨environment, files, filters, other⟩ otherId otherTime otherMoves = some otherExit)
    (quiet : .stop ∉ moves) (otherQuiet : .stop ∉ otherMoves) :
    masked exit.stdout = masked otherExit.stdout := by
  cases given : CommandLine.read words with
  | error fault =>
    simp only [run, given, Option.some.injEq] at ended otherEnded
    rw [← ended, ← otherEnded]
  | ok invocation =>
    cases invocation with
    | help | version =>
      simp only [run, given, Option.some.injEq] at ended otherEnded
      rw [← ended, ← otherEnded]
    | probe arguments =>
      by_cases hstarts : ∃ config, StartsWith arguments environment files filters config
      case neg =>
        rw [stdout_of_not_startsWith given hstarts ended,
          stdout_of_not_startsWith given hstarts otherEnded]
      case pos =>
        obtain ⟨config, starts⟩ := hstarts
        have halike := alike arguments config given starts
        obtain ⟨now, elapsed, hstdout⟩ := exists_stdout_of_quiet given starts ended quiet
        obtain ⟨later, longer, hother⟩ :=
          exists_stdout_of_quiet given starts otherEnded otherQuiet
        rw [hstdout, hother]
        exact halike.masked_text now later elapsed longer _ _ _

/-- A backend that nobody listens at, and one that accepts the request and never answers, cannot be
told apart in a document or in metrics. -/
theorem same_output_of_alike_unreachable :
    let arguments : Arguments := ⟨none, none, none, none, true, true⟩
    let words := ["--json", "--metrics"]
    let environment (name : String) : Option String :=
      if name = filterVariable then some "" else none
    let files (_ : String) : Except UnreadableFile (List UInt8) := .error .missing
    let filters : Log.Filters := Log.Filter.ofText .plain
    let moves := Session.undisturbed ⟨0, 0⟩ (.ofSeconds 1)
    let otherMoves := Session.undisturbed ⟨5, 0⟩ (.ofSeconds 5)
    CommandLine.read words = .ok (.probe arguments) ∧
    StartsWith arguments environment files filters .default ∧
    (∀ config : Config, ((probe config).check .offline).Alike ((probe config).check .silent)) ∧
    .stop ∉ moves ∧ .stop ∉ otherMoves ∧
    ∃ exit otherExit, run words ⟨environment, files, filters, .offline⟩ "" "" moves = some exit ∧
      run words ⟨environment, files, filters, .silent⟩ "" "" otherMoves = some otherExit ∧
      masked exit.stdout = masked otherExit.stdout := by
  intro arguments words environment files filters moves otherMoves
  have hread : CommandLine.read words = .ok (.probe arguments) := rfl
  have hstarts : StartsWith arguments environment files filters .default :=
    ⟨.default, rfl, rfl, Config.validate_default, _, chooseFilter_of_empty rfl⟩
  have halike (config : Config) :
      ((probe config).check .offline).Alike ((probe config).check .silent) := by
    have hoffline : (probe config).check .offline = .unreachable :=
      Probe.check_of_no_answer _ fun _ _ => .inl rfl
    have hsilent : (probe config).check .silent = .unreachable :=
      Probe.check_of_no_answer _ fun _ _ => .inr rfl
    rw [hoffline, hsilent]
    exact ⟨rfl, rfl, rfl, rfl⟩
  have hquiet : .stop ∉ moves := by simp [moves, Session.undisturbed]
  have hotherQuiet : .stop ∉ otherMoves := by simp [otherMoves, Session.undisturbed]
  obtain ⟨exit, hexit, -⟩ := exists_exit_of_output? hread hstarts
    (Session.output?_undisturbed _ _ _ _ _ _)
  obtain ⟨otherExit, hotherExit, -⟩ := exists_exit_of_output? hread hstarts
    (Session.output?_undisturbed _ _ _ _ _ _)
  exact ⟨hread, hstarts, halike, hquiet, hotherQuiet, exit, otherExit, hexit, hotherExit,
    same_output_of_alike words environment files filters .offline .silent "" "" "" "" moves
      otherMoves exit otherExit (fun _ config _ _ => halike config) hexit hotherExit hquiet
      hotherQuiet⟩

end Program

end HealthPanel
