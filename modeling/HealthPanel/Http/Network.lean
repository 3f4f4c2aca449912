import HealthPanel.Http.Head
import HealthPanel.Http.Request

/-!
# The network

What a request meets: a connection that cannot be made, or one on which bytes come in piece by
piece, until it is closed or for ever. Times are in nanoseconds. How a client goes about what comes
in is told as far as it makes a difference.
-/

namespace HealthPanel.Http

/-- Bytes that come in together, some time after what came before them. -/
structure Piece where
  delay : Nat
  bytes : List UInt8
  deriving DecidableEq

/-- All that comes in on a connection once the request has been sent. -/
structure Reply where
  pieces : List Piece
  /-- How long after the last piece the connection is closed; nothing if it stays open. -/
  closing : Option Nat
  deriving DecidableEq

/-- What a request meets. -/
inductive Connection
  | refused
  | accepted (reply : Reply)
  deriving DecidableEq

/-- What is left open of a client. -/
structure Leeway where
  /-- How much later than the probe the client notices the end of the same time, in nanoseconds. -/
  lag : Nat
  reader : Reader
  deriving DecidableEq

/-- A client that is on time, and has room for all that it may have to keep. -/
def Leeway.default : Leeway :=
  { lag := 0, reader := ⟨true, maxBuffer⟩ }

/-- What requests meet. -/
structure Network where
  /-- What each request meets, by how many came before it. -/
  connection : Nat → Request → Connection
  leeway : Leeway := .default

/-- A network on which no connection can be made. -/
def Network.offline : Network :=
  { connection := fun _ _ => .refused }

/-- A network on which every connection is silent. -/
def Network.silent : Network :=
  { connection := fun _ _ => .accepted ⟨[], none⟩ }

/-- A network of which only some connections are known. The others are silent. -/
def Network.ofConnections (connections : List Connection) : Network :=
  { connection := fun earlier _ => connections.getD earlier (.accepted ⟨[], none⟩) }

namespace Reply

/-- A reply that comes in at once, and then the connection is closed. -/
def complete (bytes : List UInt8) : Reply :=
  ⟨[⟨0, bytes⟩], some 0⟩

/-- The reply with more bytes at its end. -/
def receive (reply : Reply) (bytes : List UInt8) : Reply :=
  { reply with pieces := reply.pieces ++ [⟨0, bytes⟩] }

/-- The reply with its end. -/
def close (reply : Reply) : Reply :=
  { reply with closing := some 0 }

variable {α : Type}

/-- Waits for more pieces until what has come in tells something, from a time on, up to a
deadline. `judge` is also told whether the connection is closed. -/
def awaitPieces (judge : List (List UInt8) → Bool → Option α) (deadline : Nat)
    (closing : Option Nat) : List Piece → Nat → List (List UInt8) → Option (Nat × α)
  | [], now, received =>
    match closing with
    | none => none
    | some delay =>
      if now + delay < deadline then (judge received true).map (now + delay, ·) else none
  | piece :: pieces, now, received =>
    let now := now + piece.delay
    let received := received ++ [piece.bytes]
    if now < deadline then
      match judge received false with
      | some verdict => some (now, verdict)
      | none => awaitPieces judge deadline closing pieces now received
    else none

/-- What the reply tells before the deadline, and when. -/
def await (reply : Reply) (judge : List (List UInt8) → Bool → Option α) (deadline now : Nat) :
    Option (Nat × α) :=
  awaitPieces judge deadline reply.closing reply.pieces now []

end Reply

end HealthPanel.Http
