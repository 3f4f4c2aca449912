import HealthPanel.Json.Value
import HealthPanel.Text.Blank
import HealthPanel.Text.Quoted
import HealthPanel.Time.Span
import HealthPanel.Url.Parser

/-!
# Configuration

Where the backend is, how long a probe may take, and how the program logs. A configuration is
valid when the base URL is an absolute URL of the web and the time is not zero. Command line and
environment are layered over it: what they leave out, or leave blank, stays as it is.
-/

namespace HealthPanel

/-- The base URL of the backend. -/
structure Endpoint where
  baseUrl : String
  deriving DecidableEq

/-- How a probe is made. -/
structure ProbeLimits where
  timeoutSecs : Nat
  deriving DecidableEq

/-- The form of log lines. -/
inductive LogFormat
  | text
  | json
  deriving DecidableEq

/-- How the program logs. -/
structure Logging where
  level : String
  format : LogFormat
  deriving DecidableEq

/-- A whole configuration. -/
structure Config where
  endpoint : Endpoint
  probe : ProbeLimits
  logging : Logging
  deriving DecidableEq

/-- Why a configuration is not valid. -/
inductive ConfigFault
  | invalidUrl (baseUrl : String) (fault : Url.Fault)
  | unsupportedScheme (scheme : String)
  | zeroTimeout
  deriving DecidableEq

/-- The fault in words. -/
def ConfigFault.message : ConfigFault → String
  | invalidUrl baseUrl fault =>
    "Invalid base URL " ++ Text.quote baseUrl ++ ": " ++ fault.message
  | unsupportedScheme scheme =>
    "Unsupported URL scheme " ++ Text.quote scheme ++ ", expected http or https"
  | zeroTimeout => "Probe timeout must be greater than zero"

/-- What went wrong, and then why, each in words. -/
def ConfigFault.causes : ConfigFault → List String
  | invalidUrl baseUrl fault => [(invalidUrl baseUrl fault).message, fault.message]
  | fault => [fault.message]

namespace Endpoint

/-- The endpoint where nothing else is given. -/
def default : Endpoint := ⟨"http://localhost:8000"⟩

/-- The base URL without one slash at its end, if there is one. -/
def stem (endpoint : Endpoint) : String :=
  let letters := endpoint.baseUrl.toList
  if letters.getLast? = some '/' then String.ofList letters.dropLast else endpoint.baseUrl

/-- Where the health of the backend is asked for. -/
def healthUrl (endpoint : Endpoint) : String :=
  endpoint.stem ++ "/health"

/-- Where the documentation of the backend is. -/
def docsUrl (endpoint : Endpoint) : String :=
  endpoint.stem ++ "/docs"

/-- The endpoint under a new base URL, blanks around it left out; the same endpoint if there is
none or it is blank. -/
def override (endpoint : Endpoint) (baseUrl : Option String) : Endpoint :=
  match baseUrl with
  | none => endpoint
  | some text =>
    let trimmed := Text.trim text
    if trimmed = "" then endpoint else ⟨trimmed⟩

/-- The schemes of the web. -/
def schemes : List String := ["http", "https"]

/-- Checks the base URL. -/
def validate (endpoint : Endpoint) : Except ConfigFault Unit :=
  match Url.ofString endpoint.baseUrl with
  | .error fault => .error (.invalidUrl endpoint.baseUrl fault)
  | .ok url => if url.scheme ∈ schemes then .ok () else .error (.unsupportedScheme url.scheme)

end Endpoint

namespace ProbeLimits

/-- The limits where nothing else is given. -/
def default : ProbeLimits := ⟨5⟩

/-- The time a probe may take. -/
def timeout (limits : ProbeLimits) : Span :=
  .ofSeconds limits.timeoutSecs

/-- Checks the limits. -/
def validate (limits : ProbeLimits) : Except ConfigFault Unit :=
  if limits.timeoutSecs = 0 then .error .zeroTimeout else .ok ()

end ProbeLimits

namespace LogFormat

/-- The name of a form. -/
def name : LogFormat → String
  | text => "text"
  | json => "json"

/-- The form of a name. -/
def ofName? : String → Option LogFormat
  | "text" => some text
  | "json" => some json
  | _ => none

/-- A form is found by its own name. -/
theorem ofName?_name (format : LogFormat) : ofName? format.name = some format := by
  cases format <;> rfl

end LogFormat

/-- How the program logs where nothing else is given. -/
def Logging.default : Logging := ⟨"info", .text⟩

namespace Config

/-- The configuration where nothing is given. -/
def default : Config := ⟨.default, .default, .default⟩

/-- Checks the endpoint, then the limits. -/
def validate (config : Config) : Except ConfigFault Unit := do
  config.endpoint.validate
  config.probe.validate

/-- What a command line and its environment may set. -/
structure Overrides where
  baseUrl : Option String
  timeoutSecs : Option Nat
  logFormat : Option LogFormat
  deriving DecidableEq

/-- The configuration with overrides layered over it. -/
def override (config : Config) (overrides : Overrides) : Config :=
  { endpoint := config.endpoint.override overrides.baseUrl
    probe := ⟨overrides.timeoutSecs.getD config.probe.timeoutSecs⟩
    logging := { config.logging with format := overrides.logFormat.getD config.logging.format } }

/-- The configuration as a document. -/
def toJson (config : Config) : Json.Value :=
  .object [
    ("endpoint", .object [("base_url", .text config.endpoint.baseUrl)]),
    ("probe", .object [("timeout_secs", .number (.integer config.probe.timeoutSecs))]),
    ("logging", .object [
      ("level", .text config.logging.level),
      ("format", .text config.logging.format.name)])]

end Config

end HealthPanel
