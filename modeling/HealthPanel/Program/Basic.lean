import HealthPanel.Program.Session
import HealthPanel.Program.Start

/-!
# The program

The program reads its command line, starts, and runs. It ends with code 2 when the command line
is refused, with code 1 when it cannot start, and with code 0 in every other case, whatever the
backend does.
-/

namespace HealthPanel

/-- How the program ends. -/
structure Exit where
  code : Nat
  stdout : String
  stderr : String
  /-- What is asked of the network, or would have been had no signal come in between. -/
  requests : List Http.Request
  deriving DecidableEq

namespace Program

/-- The probe of a configuration. -/
def probe (config : Config) : Probe :=
  .ofConfig config.endpoint config.probe

/-- The run of a configuration on a network. -/
def session (arguments : Arguments) (config : Config) (network : Http.Network) (id : String) :
    Session :=
  .start (probe config) ((probe config).fetch network) id arguments.metrics

/-- The end of a program that prints something and does nothing. -/
def printed (text : String) : Exit :=
  { code := 0, stdout := text, stderr := "", requests := [] }

/-- The end of a program whose command line is refused. -/
def refused (fault : CommandFault) : Exit :=
  { code := 2, stdout := ""
    stderr := "error: " ++ fault.message ++ "\n\n" ++ CommandLine.usage
      ++ "\n\nFor more information, try '--help'.\n"
    requests := [] }

/-- The end of a program that cannot start. -/
def failed (fault : StartFault) : Exit :=
  { code := 1, stdout := "", stderr := fault.text, requests := [] }

/-- Some lines of the log as the program prints them, each at its time. -/
def logText (format : LogFormat) (filter : Log.Filter) (time : String) (lines : List Log.Line) :
    String :=
  let line (l : Log.Line) : String :=
    match format with
    | .text => l.text time
    | .json => (l.toJson time).compact
  String.join ((lines.filterMap (·.filtered? filter)).map (line · ++ "\n"))

/-- The end of a run, if its moves lead to an end. The log is written as if at one time. -/
def conclude (arguments : Arguments) (config : Config) (filter : Log.Filter)
    (network : Http.Network) (id time : String) (moves : List Move) : Option Exit :=
  let first := session arguments config network id
  let last := first.run moves
  last.output?.map fun output =>
    { code := 0
      stdout := output.text arguments.json
      stderr := logText config.logging.format filter time
        (first.openingLines ++ first.journal moves)
      requests := if last.hasAsked then (probe config).requests network else [] }

/-- How the program ends for some arguments, if its moves lead to an end. -/
def runProbe (arguments : Arguments) (surroundings : Surroundings) (id time : String)
    (moves : List Move) : Option Exit :=
  match prepare arguments surroundings with
  | .error fault => some (failed fault)
  | .ok (config, filter) =>
    conclude arguments config filter surroundings.network id time moves

/-- How the program ends for a command line, if its moves lead to an end. -/
def run (words : List String) (surroundings : Surroundings) (id time : String)
    (moves : List Move) : Option Exit :=
  match CommandLine.read words with
  | .error fault => some (refused fault)
  | .ok .help => some (printed (CommandLine.help (surroundings.environment urlVariable)))
  | .ok .version => some (printed CommandLine.version)
  | .ok (.probe arguments) => runProbe arguments surroundings id time moves

end Program

end HealthPanel
