import HealthPanel.Config.Basic
import HealthPanel.Text.Numeral

/-!
# The command line

A command line is a list of words. An option is written with two hyphens and its name, or with
one hyphen and its letter if it has one; its value follows an equals sign, or the letter, or is
the next word, which then must not look like an option. Each option is given at most once, and
there is nothing else on a command line. The options that ask for help and for the version end
the reading.
-/

namespace HealthPanel

/-- The options of the program. -/
inductive ProgramOption
  | config
  | apiUrl
  | timeoutSecs
  | logFormat
  | json
  | metrics
  | help
  | version
  deriving DecidableEq

namespace ProgramOption

/-- The options in the order in which help lists them. -/
def all : List ProgramOption :=
  [config, apiUrl, timeoutSecs, logFormat, json, metrics, help, version]

/-- The name of an option, without the hyphens. -/
def name : ProgramOption → String
  | config => "config"
  | apiUrl => "api-url"
  | timeoutSecs => "timeout-secs"
  | logFormat => "log-format"
  | json => "json"
  | metrics => "metrics"
  | help => "help"
  | version => "version"

/-- The letter of an option, if it has one. -/
def letter? : ProgramOption → Option Char
  | config => some 'c'
  | help => some 'h'
  | version => some 'V'
  | _ => none

/-- What help calls the value of an option, if it takes one. -/
def value? : ProgramOption → Option String
  | config => some "CONFIG"
  | apiUrl => some "API_URL"
  | timeoutSecs => some "TIMEOUT_SECS"
  | logFormat => some "LOG_FORMAT"
  | _ => none

/-- The option of a name. -/
def ofName? (name : String) : Option ProgramOption :=
  all.find? (·.name = name)

/-- The option of a letter. -/
def ofLetter? (letter : Char) : Option ProgramOption :=
  all.find? (·.letter? = some letter)

/-- An option is found by its own name. -/
theorem ofName?_name (option : ProgramOption) : ofName? option.name = some option := by
  cases option <;> decide

end ProgramOption

/-- What a command line asks of a run. -/
structure Arguments where
  configFile : Option String
  baseUrl : Option String
  timeoutSecs : Option Nat
  logFormat : Option LogFormat
  /-- Whether the report is printed as a document. -/
  json : Bool
  /-- Whether the metrics are printed after the report. -/
  metrics : Bool
  deriving DecidableEq

/-- What a command line asks for. -/
inductive Invocation
  | probe (arguments : Arguments)
  | help
  | version
  deriving DecidableEq

/-- Why a command line is refused. -/
inductive CommandFault
  | unexpected (word : String)
  | repeated (option : ProgramOption)
  | missingValue (option : ProgramOption)
  | needlessValue (option : ProgramOption) (value : String)
  | badValue (option : ProgramOption) (value : String)
  deriving DecidableEq

/-- The fault in words. -/
def CommandFault.message : CommandFault → String
  | unexpected word => "unexpected argument '" ++ word ++ "' found"
  | repeated option => "the argument '--" ++ option.name ++ "' cannot be used multiple times"
  | missingValue option => "a value is required for '--" ++ option.name ++ "' but none was supplied"
  | needlessValue option value =>
    "unexpected value '" ++ value ++ "' for '--" ++ option.name ++ "' found; no more were expected"
  | badValue option value => "invalid value '" ++ value ++ "' for '--" ++ option.name ++ "'"

namespace Arguments

/-- A command line without words. -/
def none : Arguments :=
  { configFile := .none, baseUrl := .none, timeoutSecs := .none, logFormat := .none
    json := false, metrics := false }

/-- What is given once, in a form that can be read. -/
def once {α : Type} (option : ProgramOption) (value : String) (given : Option α)
    (read : String → Option α) : Except CommandFault (Option α) :=
  if given.isSome then .error (.repeated option)
  else match read value with
    | .none => .error (.badValue option value)
    | some x => .ok (some x)

/-- The arguments with the value of an option. -/
def give (arguments : Arguments) (option : ProgramOption) (value : String) :
    Except CommandFault Arguments :=
  match option with
  | .config => do
    let path := fun text => if text = "" then .none else some text
    return { arguments with configFile := ← once option value arguments.configFile path }
  | .apiUrl => do
    return { arguments with baseUrl := ← once option value arguments.baseUrl some }
  | .timeoutSecs => do
    return { arguments with timeoutSecs := ← once option value arguments.timeoutSecs Text.natural? }
  | .logFormat => do
    return { arguments with logFormat := ← once option value arguments.logFormat LogFormat.ofName? }
  | _ => .error (.needlessValue option value)

/-- The arguments with an option that takes no value. -/
def turnOn (arguments : Arguments) (option : ProgramOption) : Except CommandFault Arguments :=
  match option with
  | .json =>
    if arguments.json then .error (.repeated option) else .ok { arguments with json := true }
  | .metrics =>
    if arguments.metrics then .error (.repeated option) else .ok { arguments with metrics := true }
  | _ => .error (.missingValue option)

end Arguments

namespace CommandLine

/-- What a word is. -/
inductive Word
  /-- The mark after which no word is an option. -/
  | mark
  /-- An option, and its value if that is part of the word. -/
  | option (option : ProgramOption) (value : Option String)
  /-- A word that can only be a value. -/
  | plain
  /-- A word that looks like an option but is none. -/
  | unknown

/-- What a word is whose option is written by name. -/
def longWord (text : List Char) : Word :=
  let name := text.takeWhile (· ≠ '=')
  match ProgramOption.ofName? (String.ofList name) with
  | none => .unknown
  | some option =>
    match text.drop name.length with
    | [] => .option option none
    | _ :: value => .option option (some (String.ofList value))

/-- What a word is whose option is written by letter. The letters after an option that takes no
value are not looked at, because such an option ends the reading. -/
def shortWord (letter : Char) (text : List Char) : Word :=
  match ProgramOption.ofLetter? letter with
  | none => .unknown
  | some option =>
    if option.value?.isNone then .option option none
    else match text with
      | [] => .option option none
      | '=' :: value => .option option (some (String.ofList value))
      | value => .option option (some (String.ofList value))

/-- What a word is. -/
def word (text : String) : Word :=
  match text.toList with
  | ['-', '-'] => .mark
  | '-' :: '-' :: name => longWord name
  | '-' :: letter :: value => shortWord letter value
  | _ => .plain

/-- Whether a word can be the value of the option before it. -/
def isValue (text : String) : Bool :=
  match word text with
  | .plain => true
  | _ => false

/-- Reads the words after those that gave some arguments already. -/
def readFrom (arguments : Arguments) : List String → Except CommandFault Invocation
  | [] => .ok (.probe arguments)
  | text :: rest =>
    match word text with
    | .mark =>
      match rest with
      | [] => .ok (.probe arguments)
      | other :: _ => .error (.unexpected other)
    | .plain | .unknown => .error (.unexpected text)
    | .option .help none => .ok .help
    | .option .version none => .ok .version
    | .option option (some value) => do
      readFrom (← arguments.give option value) rest
    | .option option none =>
      if option.value?.isNone then do
        readFrom (← arguments.turnOn option) rest
      else match rest with
        | [] => .error (.missingValue option)
        | value :: rest =>
          if isValue value then do
            readFrom (← arguments.give option value) rest
          else .error (.missingValue option)

/-- Reads the words of a command line. -/
def read (words : List String) : Except CommandFault Invocation :=
  readFrom .none words

/-! ## Help -/

/-- What an option is for. -/
def purpose (environmentUrl : Option String) : ProgramOption → String
  | .config => "YAML or JSON config file"
  | .apiUrl =>
    "Base URL of the API, e.g. http://localhost:8000 [env: API_URL="
      ++ environmentUrl.getD "" ++ "]"
  | .timeoutSecs => "Give up on the health request after this many seconds"
  | .logFormat => "[possible values: text, json]"
  | .json => "Print the report as JSON"
  | .metrics => "Append probe metrics in Prometheus text format"
  | .help => "Print help"
  | .version => "Print version"

/-- How an option is written. -/
def form (option : ProgramOption) : String :=
  option.letter?.elim "    " (fun letter => "-" ++ String.singleton letter ++ ", ")
    ++ "--" ++ option.name ++ option.value?.elim "" (" <" ++ · ++ ">")

/-- A text with blanks after it, up to a width. -/
def padded (width : Nat) (text : String) : String :=
  text ++ String.ofList (List.replicate (width - text.length) ' ')

/-- How the program is called. -/
def usage : String := "Usage: status-probe [OPTIONS]"

/-- The help text, which also tells the base URL of the environment. -/
def help (environmentUrl : Option String) : String :=
  let width := (ProgramOption.all.map fun option => (form option).length).foldl max 0
  "\n".intercalate (
    ["Check an API health endpoint once and report what a status panel would show", "", usage, "",
      "Options:"]
    ++ ProgramOption.all.map fun option =>
      "  " ++ padded (width + 2) (form option) ++ purpose environmentUrl option)
    ++ "\n"

/-- The name of the program and its version. -/
def version : String := "status-probe 0.1.0\n"

end CommandLine

end HealthPanel
