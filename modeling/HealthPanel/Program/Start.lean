import HealthPanel.CommandLine
import HealthPanel.Config.File
import HealthPanel.Http.Network
import HealthPanel.Log.Filter

/-!
# Starting the program

Before the program does anything that can be seen from outside, it loads the configuration file,
layers environment and command line over it, validates the result, and makes the filter of its
log. Whatever fails here ends it.
-/

namespace HealthPanel

/-- What the program finds around it. -/
structure Surroundings where
  environment : String → Option String
  files : String → Except UnreadableFile (List UInt8)
  filters : Log.Filters
  network : Http.Network

/-- Why the program ends before it has done anything. -/
inductive StartFault
  | load (fault : LoadFault)
  | invalid (fault : ConfigFault)
  | filter (fault : Log.FilterFault)

/-- What went wrong, and then why, each in words. -/
def StartFault.causes : StartFault → List String
  | load fault => fault.causes
  | invalid fault => fault.causes
  | filter fault => fault.causes

/-- The fault as the program prints it. The lines of a cause are indented. -/
def StartFault.text (fault : StartFault) : String :=
  let indented (cause : String) : String := "\n    " ++ cause.replace "\n" "\n    "
  match fault.causes with
  | [] => "Error: \n"
  | message :: [] => "Error: " ++ message ++ "\n"
  | message :: causes =>
    "Error: " ++ message ++ "\n\nCaused by:" ++ String.join (causes.map indented) ++ "\n"

namespace Program

/-- The variable that gives a base URL where the command line gives none. -/
def urlVariable : String := "API_URL"

/-- The variable that gives the filter of the log. -/
def filterVariable : String := "RUST_LOG"

/-- What the command line sets, and where it gives no base URL, the environment. A base URL on the
command line stands before that of the environment even if it is blank. -/
def overrides (arguments : Arguments) (environment : String → Option String) : Config.Overrides :=
  { baseUrl := arguments.baseUrl.or (environment urlVariable)
    timeoutSecs := arguments.timeoutSecs
    logFormat := arguments.logFormat }

/-- The configuration of the file that the command line names, or the default one. -/
def loadConfig (arguments : Arguments) (files : String → Except UnreadableFile (List UInt8)) :
    Except LoadFault Config :=
  match arguments.configFile with
  | none => .ok .default
  | some path => ConfigFile.load path (files path)

/-- The filter that the environment gives, or else that of the level in the configuration. -/
def chooseFilter (environment : String → Option String) (filters : Log.Filters)
    (logging : Logging) : Except Log.FilterFault Log.Filter :=
  match (environment filterVariable).map filters with
  | some (.ok filter) => .ok filter
  | _ => filters ("status_probe=" ++ logging.level ++ ",reqwest=warn")

/-- The configuration and the filter of a run. -/
def prepare (arguments : Arguments) (surroundings : Surroundings) :
    Except StartFault (Config × Log.Filter) := do
  let config ← (loadConfig arguments surroundings.files).mapError .load
  let config := config.override (overrides arguments surroundings.environment)
  config.validate.mapError .invalid
  let filter ←
    (chooseFilter surroundings.environment surroundings.filters config.logging).mapError .filter
  return (config, filter)

end Program

end HealthPanel
