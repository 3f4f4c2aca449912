/-!
# Reading bytes as they come in

A connection brings its bytes in pieces, so what is read off the front of them may be complete, it
may be wrong already, or it may need more bytes to tell.
-/

namespace HealthPanel.Http

/-- What has been read off the bytes that have come in. -/
inductive Incoming (α : Type)
  | more
  | bad
  | done (value : α) (rest : List UInt8)

namespace Incoming

variable {α β : Type}

/-- Reads on after what is complete. -/
def bind (incoming : Incoming α) (next : α → List UInt8 → Incoming β) : Incoming β :=
  match incoming with
  | more => more
  | bad => bad
  | done value rest => next value rest

/-- What is read, changed by a function. -/
def map (f : α → β) (incoming : Incoming α) : Incoming β :=
  incoming.bind fun value rest => done (f value) rest

/-- What is read once no more bytes can come. -/
def atEnd : Incoming α → Incoming α
  | more => bad
  | incoming => incoming

end Incoming

/-! ## Bytes and lines -/

/-- Reads one byte that has to tell something. -/
def readAs {α : Type} (f : UInt8 → Option α) : List UInt8 → Incoming α
  | [] => .more
  | b :: rest =>
    match f b with
    | some value => .done value rest
    | none => .bad

/-- Reads one byte that has to be there. -/
def readByte (b : UInt8) : List UInt8 → Incoming Unit :=
  readAs fun c => if c = b then some () else none

/-- Reads bytes that have to be there one after the other. -/
def readBytes : List UInt8 → List UInt8 → Incoming Unit
  | [], s => .done () s
  | b :: bytes, s => (readByte b s).bind fun _ rest => readBytes bytes rest

/-- Reads all bytes of a kind. Where they end is known when a byte of another kind comes. -/
def readWhile (p : UInt8 → Bool) (s : List UInt8) : Incoming (List UInt8) :=
  match s.dropWhile p with
  | [] => .more
  | rest => .done (s.takeWhile p) rest

/-- Reads a line break of two bytes. -/
def readLineBreak (s : List UInt8) : Incoming Unit :=
  (readByte 0x0D s).bind fun _ rest => readByte 0x0A rest

/-- Reads the end of a line, a line feed that may have a carriage return before it. -/
def readLineEnd (s : List UInt8) : Incoming Unit :=
  if s.head? = some 0x0D then readLineBreak s else readByte 0x0A s

/-! ## Takes -/

/-- Cuts bytes into pieces of at most `size` bytes, at most `fuel` of them. -/
def cut (size : Nat) : Nat → List UInt8 → List (List UInt8)
  | 0, _ => []
  | fuel + 1, s => if s = [] ∨ size = 0 then [] else s.take size :: cut size fuel (s.drop size)

end HealthPanel.Http
