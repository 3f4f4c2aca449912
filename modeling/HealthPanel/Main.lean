import HealthPanel.Program.Basic
import Std.Async.DNS
import Std.Async.Signal
import Std.Async.TCP
import Std.Async.Timer

/-!
# The executable

Runs the program in its surroundings. The network is asked connection by connection: what has
come in so far is handed to the probe, which tells its result or the request that it sends next.
There is no encrypted transport, so that a secure address is never reached.
-/

namespace HealthPanel.Executable

open Std.Async

/-- How the wait for a backend ends. -/
inductive Arrival
  | answer (result : Except ProbeFailure Payload)
  | expiry
  | stop

instance : Inhabited Arrival := ⟨.stop⟩

/-- A connection that is being read from. -/
structure Channel where
  socket : TCP.Socket.Client
  reply : Http.Reply

/-- The address of a socket. -/
def socketAddress (ip : Std.Net.IPAddr) (port : UInt16) : Std.Net.SocketAddress :=
  match ip with
  | .v4 addr => .v4 ⟨addr, port⟩
  | .v6 addr => .v6 ⟨addr, port⟩

/-- Connects to the first of some addresses that accepts. -/
def connectAny (port : UInt16) : List Std.Net.IPAddr → Async (Option TCP.Socket.Client)
  | [] => return none
  | ip :: ips => do
    try
      let socket ← TCP.Socket.Client.mk
      socket.connect (socketAddress ip port)
      return some socket
    catch _ => connectAny port ips

/-- Opens a connection and sends a request on it. -/
def dial (request : Http.Request) : Async (Option Channel) := do
  if request.url.scheme ≠ "http" then return none
  let port := request.url.effectivePort?.getD 0
  let host := (request.url.host.elim "" Url.Host.render).toList.filter fun c => c ≠ '[' && c ≠ ']'
  try
    let ips ← DNS.getAddrInfo (String.ofList host) (toString port)
    match ← connectAny port.toUInt16 ips.toList with
    | none => return none
    | some socket =>
      socket.send ⟨request.toBytes.toArray⟩
      return some ⟨socket, ⟨[], none⟩⟩
  catch _ => return none

/-- Reads from a connection once. A connection that breaks is one that was never made. -/
def listen (channel : Channel) : Async (Option Channel) := do
  try
    match ← channel.socket.recv? 65536 with
    | some bytes => return some { channel with reply := channel.reply.receive bytes.toList }
    | none => return some { channel with reply := channel.reply.close }
  catch _ => return none

/-- Asks the network until the probe has a result. `earlier` are the connections that have led to
another request, and `channel` is the one after them. -/
partial def converse (probe : Probe) (earlier : List Http.Connection) (channel : Option Channel) :
    Async (Except ProbeFailure Payload) := do
  let connection := channel.elim .refused fun channel => .accepted channel.reply
  let connections := earlier ++ [connection]
  let network := Http.Network.ofConnections connections
  let trace := probe.trace network
  match trace.result, trace.requests[connections.length]?, channel with
  | some result, _, _ => return result
  | none, some next, _ => converse probe connections (← dial next)
  | none, none, some current => converse probe earlier (← listen current)
  | none, none, none => return .error (probe.expiry network)

/-- Asks the network from the first request on. -/
def ask (probe : Probe) : Async (Except ProbeFailure Payload) := do
  match probe.trace (.ofConnections []) with
  | ⟨_, some result⟩ => return result
  | ⟨request :: _, none⟩ => converse probe [] (← dial request)
  | ⟨[], none⟩ => return .error (probe.expiry .silent)

/-- Waits for a signal of the system. -/
def signalled (signal : Std.Async.Signal) : Async Arrival := do
  let waiter ← Std.Async.Signal.Waiter.mk signal false
  let _ ← MonadAwait.await (← waiter.wait)
  return .stop

/-- Waits for the end of the probe's time. -/
def expired (probe : Probe) : Async Arrival := do
  sleep (.ofNat (probe.deadline .silent / 1_000_000))
  return .expiry

/-- Waits for whatever comes first. -/
def await (probe : Probe) : Async Arrival :=
  Async.raceAll #[Arrival.answer <$> ask probe, expired probe, signalled .sigterm,
    signalled .sigint]

/-- A random name for an activation: five groups of hexadecimal digits. -/
def freshId : IO String := do
  let bytes := (← IO.getRandomBytes 16).toList.map UInt8.toNat
  let bytes := (bytes.set 6 (0x40 + bytes.getD 6 0 % 16)).set 8 (0x80 + bytes.getD 8 0 % 64)
  let digits := bytes.flatMap fun n => [Nat.digitChar (n / 16), Nat.digitChar (n % 16)]
  let group (start size : Nat) := String.ofList ((digits.drop start).take size)
  return "-".intercalate [group 0 8, group 8 4, group 12 4, group 16 4, group 20 12]

/-- The time of the system. -/
def now : IO Instant := do
  let time := (← Std.Time.Timestamp.now).toNanosecondsSinceUnixEpoch.val
  return ⟨time.fdiv 1_000_000_000, (time.fmod 1_000_000_000).toNat⟩

/-- What the system says of a file that cannot be read. -/
def systemReason (fault : IO.Error) : String :=
  let said (code : UInt32) (details : String) : String :=
    details.capitalize ++ " (os error " ++ toString code ++ ")"
  match fault with
  | .inappropriateType _ code details => said code details
  | .permissionDenied _ code details => said code details
  | fault => toString fault

/-- The contents of a file. -/
def readFile (path : String) : IO (Except UnreadableFile (List UInt8)) := do
  try
    return .ok (← IO.FS.readBinFile path).toList
  catch
    | .noFileOrDirectory .. => return .error .missing
    | fault => return .error (.other (systemReason fault))

/-- Makes moves one after another, and writes what they log. -/
def perform (write : List Log.Line → IO Unit) (session : Session) (moves : List Move) :
    IO Session := do
  let mut session := session
  for move in moves do
    write (session.lines move)
    session := session.step move
  return session

/-- Runs the program for arguments that it can start with. -/
def runProbe (arguments : Arguments) (config : Config) (filter : Log.Filter) : IO UInt32 := do
  let write (lines : List Log.Line) : IO Unit := do
    (← IO.getStderr).putStr (Program.logText config.logging.format filter (← now).timestamp lines)
  let probe := Program.probe config
  let session := Session.start probe (.error (probe.expiry .silent)) (← freshId) arguments.metrics
  write session.openingLines
  let begun ← IO.monoNanosNow
  let session ← perform write session [.task .start, .listen]
  let arrival ← (await probe).block
  let nanoseconds := (← IO.monoNanosNow) - begun
  let elapsed : Span :=
    ⟨nanoseconds / 1_000_000_000, nanoseconds % 1_000_000_000, Nat.mod_lt _ (by decide)⟩
  let finish (session : Session) : IO Session := do
    perform write session [.task .resolve, .task (.apply (← now)), .task (.record elapsed),
      .proceed, .proceed, .proceed]
  let session ← match arrival with
    | .answer result => finish { session with result }
    | .expiry => finish session
    | .stop => perform write session [.stop, .proceed, .task .look, .task (.record elapsed),
        .proceed, .proceed]
  match session.output? with
  | some output => IO.print (output.text arguments.json)
  | none => pure ()
  return 0

/-- Ends the program. -/
def leave (exit : Exit) : IO UInt32 := do
  IO.print exit.stdout
  IO.eprint exit.stderr
  return exit.code.toUInt32

/-- Runs the program for a command line. -/
def run (words : List String) : IO UInt32 := do
  match CommandLine.read words with
  | .error fault => leave (Program.refused fault)
  | .ok .help => leave (Program.printed (CommandLine.help (← IO.getEnv Program.urlVariable)))
  | .ok .version => leave (Program.printed CommandLine.version)
  | .ok (.probe arguments) =>
    let url ← IO.getEnv Program.urlVariable
    let filter ← IO.getEnv Program.filterVariable
    let environment (name : String) : Option String :=
      if name = Program.urlVariable then url
      else if name = Program.filterVariable then filter
      else none
    let file ← match arguments.configFile with
      | some path => readFile path
      | none => pure (.error .missing)
    let filters := Log.Filter.ofText .plain
    match Program.prepare arguments ⟨environment, fun _ => file, filters, .offline⟩ with
    | .error fault => leave (Program.failed fault)
    | .ok (config, filter) => runProbe arguments config filter

end HealthPanel.Executable

/-- Runs the program for the words of its command line. -/
def main (words : List String) : IO UInt32 :=
  HealthPanel.Executable.run words
