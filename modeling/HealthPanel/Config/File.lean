import HealthPanel.Config.Format.Json
import HealthPanel.Config.Format.Yaml

/-!
# Configuration files

A file whose name ends in `.yaml` or `.yml` is YAML, every other file is JSON. A file is loaded
when it can be read as text, is well formed, fits the configuration, and the configuration is
valid.
-/

namespace HealthPanel

/-- Why a file could not be read. -/
inductive UnreadableFile
  | missing
  | notText
  /-- Any other reason, in the words of the system. -/
  | other (reason : String)
  deriving DecidableEq

/-- The reason in words. -/
def UnreadableFile.message : UnreadableFile → String
  | missing => "No such file or directory (os error 2)"
  | notText => "stream did not contain valid UTF-8"
  | other reason => reason

/-- Why a configuration could not be loaded. -/
inductive LoadFault
  | unreadable (name : String) (reason : UnreadableFile)
  | json (fault : Json.LocatedFault)
  | yaml (fault : YamlFile.Fault)
  /-- The file is no YAML, or holds more than one document. -/
  | notYaml
  | invalid (fault : ConfigFault)

/-- What went wrong, and then why, each in words. -/
def LoadFault.causes : LoadFault → List String
  | unreadable name reason => ["Failed to read config file " ++ name, reason.message]
  | json fault => ["Failed to parse JSON config", fault.message]
  | yaml fault => ["Failed to parse YAML config", fault.message]
  | notYaml => ["Failed to parse YAML config"]
  | invalid fault => fault.causes

/-- The fault in words. -/
def LoadFault.message (fault : LoadFault) : String :=
  ": ".intercalate fault.causes

namespace ConfigFile

/-- The last part of a path that names something. -/
def fileName? (path : String) : Option String :=
  let parts := (path.splitOn "/").filter (· ≠ "")
  let named := parts.take 1 ++ (parts.drop 1).filter (· ≠ ".")
  match named.getLast? with
  | some "." => none
  | some ".." => none
  | name => name

/-- What follows the last dot of a name, if something stands before that dot. -/
def extension? (path : String) : Option String := do
  let parts := (← fileName? path).splitOn "."
  guard (2 ≤ parts.length ∧ parts.dropLast ≠ [""])
  parts.getLast?

/-- Whether a file of this name is YAML. -/
def isYaml (path : String) : Bool :=
  extension? path = some "yaml" || extension? path = some "yml"

/-- The configuration that the text of a file holds. -/
def parse (path contents : String) : Except LoadFault Config :=
  if isYaml path then
    match Yaml.Document.ofText? contents with
    | none => .error .notYaml
    | some document => (YamlFile.config document).mapError .yaml
  else (JsonFile.config contents).mapError .json

/-- The configuration that a file holds, if it is valid. -/
def load (path : String) (contents : Except UnreadableFile (List UInt8)) :
    Except LoadFault Config := do
  let bytes ← contents.mapError (.unreadable path)
  match Utf8.decode? bytes with
  | none => .error (.unreadable path .notText)
  | some text =>
    let config ← parse path text
    config.validate.mapError .invalid
    return config

end ConfigFile

end HealthPanel
