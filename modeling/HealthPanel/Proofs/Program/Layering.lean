import HealthPanel.Program.Basic
import HealthPanel.Proofs.Config.Drafts
import HealthPanel.Proofs.Config.Layers
import HealthPanel.Proofs.Config.Validity

/-!
# Where the program looks for the backend

The command line is looked at before the environment, and both stand above the configuration
file. But the command line hides the environment as soon as it gives a base URL, also a blank
one, and only then is a blank one taken for none: such a flag leads back to the file.
-/

namespace HealthPanel.Program

open HealthPanel.Text (isBlank)

variable {arguments : Arguments} {surroundings : Surroundings}

/-- The program starts exactly if a configuration is loaded, is valid with what is layered over
it, and has a filter. -/
theorem prepare_eq_ok_iff {config : Config} {filter : Log.Filter} :
    prepare arguments surroundings = .ok (config, filter) ↔
      ∃ file, loadConfig arguments surroundings.files = .ok file ∧
        file.override (overrides arguments surroundings.environment) = config ∧
        config.validate = .ok () ∧
        chooseFilter surroundings.environment surroundings.filters config.logging =
          .ok filter := by
  simp only [prepare, bind, Except.bind]
  cases loadConfig arguments surroundings.files with
  | error fault => simp [Except.mapError]
  | ok file =>
    simp only [Except.mapError, Except.ok.injEq, exists_eq_left']
    generalize file.override (overrides arguments surroundings.environment) = layered
    cases hvalid : layered.validate with
    | error fault =>
      have hinvalid : layered = config → config.validate ≠ .ok () := by
        rintro rfl
        simp [hvalid]
      simpa using fun hconfig hok => absurd hok (hinvalid hconfig)
    | ok _ =>
      cases hfilter :
          chooseFilter surroundings.environment surroundings.filters layered.logging with
      | error fault =>
        have hunfiltered : layered = config →
            chooseFilter surroundings.environment surroundings.filters config.logging ≠
              .ok filter := by
          rintro rfl
          simp [hfilter]
        simpa using fun hconfig _ => hunfiltered hconfig
      | ok chosen =>
        simp only [pure, Except.pure, Except.ok.injEq, Prod.mk.injEq]
        constructor
        · rintro ⟨rfl, rfl⟩
          exact ⟨rfl, hvalid, hfilter⟩
        · rintro ⟨rfl, -, hchosen⟩
          exact ⟨rfl, Except.ok.inj (hfilter.symm.trans hchosen)⟩

/-- A run that ends without a fault goes on with a configuration that the program starts with. -/
theorem run_eq_conclude {words : List String} {id time : String} {moves : List Move} {exit : Exit}
    (given : CommandLine.read words = .ok (.probe arguments))
    (h : run words surroundings id time moves = some exit) (success : exit.code = 0) :
    ∃ config filter, prepare arguments surroundings = .ok (config, filter) ∧
      conclude arguments config filter surroundings.network id time moves = some exit := by
  simp only [run, given, runProbe] at h
  cases hprepare : prepare arguments surroundings with
  | error fault =>
    rw [hprepare, Option.some.injEq] at h
    rw [← h] at success
    exact absurd success (by simp [failed])
  | ok started => exact ⟨started.1, started.2, rfl, by simpa only [hprepare] using h⟩

/-- A run asks of the network what its probe does, or nothing. -/
theorem requests_of_conclude {config : Config} {filter : Log.Filter} {network : Http.Network}
    {id time : String} {moves : List Move} {exit : Exit}
    (h : conclude arguments config filter network id time moves = some exit) :
    exit.requests = [] ∨ exit.requests = (probe config).requests network := by
  obtain ⟨output, -, rfl⟩ := Option.map_eq_some_iff.mp h
  exact (ite_eq_or_eq _ _ _).symm

/-- What a loaded configuration says of the endpoint is what the file gives, or the base URL that
stands where none is given. -/
theorem baseUrl_of_loadConfig {file : Config}
    (loaded : loadConfig arguments surroundings.files = .ok file) :
    (arguments.configFile = none → file.endpoint.baseUrl = "http://localhost:8000") ∧
    ∀ path, arguments.configFile = some path → ∃ bytes contents draft,
      surroundings.files path = .ok bytes ∧ Utf8.decode? bytes = some contents ∧
      ConfigFile.draft? path contents = some draft ∧
      file.endpoint.baseUrl =
        (draft.endpoint.map Endpoint.baseUrl).getD "http://localhost:8000" := by
  constructor
  · intro hnone
    simp only [loadConfig, hnone, Except.ok.injEq] at loaded
    rw [← loaded]
    rfl
  · intro path hpath
    simp only [loadConfig, hpath] at loaded
    obtain ⟨bytes, contents, draft, hread, hdecode, hdraft, hfile, -⟩ :=
      ConfigFile.load_eq_ok_iff.mp loaded
    refine ⟨bytes, contents, draft, hread, hdecode, hdraft, ?_⟩
    rw [← hfile]
    cases hendpoint : draft.endpoint <;>
      simp [FileFormat.ConfigDraft.complete, hendpoint, Endpoint.default]

/-- A variable that is set but empty gives a filter that lets errors through. -/
theorem chooseFilter_of_empty {environment : String → Option String} {patterns : Log.Patterns}
    {logging : Logging} (h : environment filterVariable = some "") :
    chooseFilter environment (Log.Filter.ofText patterns) logging = .ok .errorsOnly := by
  have hsplit : "".splitOn "," = [""] := by
    rw [String.splitOn, if_neg (by decide), String.splitOnAux, if_pos (by decide)]
    decide
  have hfilter : Log.Filter.ofText patterns "" = .ok .errorsOnly := by
    rw [Log.Filter.ofText, hsplit]
    rfl
  simp only [chooseFilter, h, Option.map_some, hfilter]

/-- Command line and environment stand above the file, in this order, but of the two only the
first that is given is looked at. So the base URL is the one that both decide on above that of the
file exactly unless the command line gives a blank one while the environment names one that the
file does not have. Without a file, or with a file that names no base URL, the local backend
stands below. A run that ends without a fault asks the endpoint of this base URL. -/
theorem layers_decide (words : List String) (arguments : Arguments) (surroundings : Surroundings)
    (file : Config) (given : CommandLine.read words = .ok (.probe arguments))
    (loaded : loadConfig arguments surroundings.files = .ok file) :
    let below := file.endpoint.baseUrl
    let flag := arguments.baseUrl
    let inherited := surroundings.environment urlVariable
    let url := (file.override (overrides arguments surroundings.environment)).endpoint.baseUrl
    Decides below [flag.or inherited] url ∧
    (Decides below [flag, inherited] url ↔
      ¬∃ text hidden, flag = some text ∧ (∀ c ∈ text.toList, isBlank c = true) ∧
        Decides below [inherited] hidden ∧ hidden ≠ below) ∧
    (arguments.configFile = none → below = "http://localhost:8000") ∧
    (∀ path, arguments.configFile = some path → ∃ bytes contents draft,
      surroundings.files path = .ok bytes ∧ Utf8.decode? bytes = some contents ∧
      ConfigFile.draft? path contents = some draft ∧
      below = (draft.endpoint.map Endpoint.baseUrl).getD "http://localhost:8000") ∧
    ∀ id time moves exit, run words surroundings id time moves = some exit → exit.code = 0 →
      ∃ config filter, config.endpoint = ⟨url⟩ ∧
        conclude arguments config filter surroundings.network id time moves = some exit ∧
        (exit.requests = [] ∨ exit.requests = (probe config).requests surroundings.network) := by
  intro below flag inherited url
  have hurl : url = (named? (flag.or inherited)).getD below :=
    Endpoint.baseUrl_override file.endpoint _
  obtain ⟨hnone, hsome⟩ := baseUrl_of_loadConfig loaded
  refine ⟨?_, ?_, hnone, hsome, ?_⟩
  · rw [decides_iff, hurl]
    cases hnamed : named? (flag.or inherited) <;> simp [hnamed]
  · rw [hurl]
    exact decides_or_iff
  · intro id time moves exit hrun success
    obtain ⟨config, filter, hprepare, hconclude⟩ := run_eq_conclude given hrun success
    obtain ⟨other, hother, hconfig, -⟩ := prepare_eq_ok_iff.mp hprepare
    obtain rfl : file = other := Except.ok.inj (loaded.symm.trans hother)
    exact ⟨config, filter, by rw [← hconfig], hconclude, requests_of_conclude hconclude⟩

/-- A base URL on the command line decides, above that of the environment. -/
theorem layers_decide_flagged :
    let arguments : Arguments := ⟨none, some "http://[::1]", none, none, false, false⟩
    let surroundings : Surroundings :=
      ⟨fun _ => some "http://127.0.0.1", fun _ => .error .missing, Log.Filter.ofText .plain,
        .offline⟩
    CommandLine.read ["--api-url", "http://[::1]"] = .ok (.probe arguments) ∧
    loadConfig arguments surroundings.files = .ok .default ∧
    Decides "http://localhost:8000" [some "http://[::1]", some "http://127.0.0.1"]
      (Config.default.override
        (overrides arguments surroundings.environment)).endpoint.baseUrl := by
  intro arguments surroundings
  refine ⟨rfl, rfl, (layers_decide ["--api-url", "http://[::1]"] arguments surroundings .default
    rfl rfl).2.1.mpr ?_⟩
  rintro ⟨text, -, htext, hblank, -⟩
  obtain rfl : "http://[::1]" = text := Option.some.inj htext
  exact absurd (hblank 'h' (by decide)) (by decide)

/-- A blank base URL on the command line hides the one in the environment: the program starts and
asks the local backend, though both layers decide on another one. -/
theorem blank_flag_hides_environment :
    let arguments : Arguments := ⟨none, some " ", none, none, false, false⟩
    let surroundings : Surroundings :=
      ⟨fun name => if name = urlVariable then some "http://[::1]"
        else if name = filterVariable then some "" else none,
        fun _ => .error .missing, Log.Filter.ofText .plain, .offline⟩
    CommandLine.read ["--api-url", " "] = .ok (.probe arguments) ∧
    loadConfig arguments surroundings.files = .ok .default ∧
    prepare arguments surroundings = .ok (.default, .errorsOnly) ∧
    (probe .default).endpoint.baseUrl = "http://localhost:8000" ∧
    Decides Config.default.endpoint.baseUrl
      [arguments.baseUrl, surroundings.environment urlVariable] "http://[::1]" := by
  intro arguments surroundings
  refine ⟨rfl, rfl, ?_, rfl, ?_⟩
  · exact prepare_eq_ok_iff.mpr
      ⟨.default, rfl, by decide, Config.validate_default, chooseFilter_of_empty rfl⟩
  · exact .blank (by decide) (decides_iff.mpr (by decide))

end HealthPanel.Program
