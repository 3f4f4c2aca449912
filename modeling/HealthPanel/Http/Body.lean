import HealthPanel.Http.Head
import HealthPanel.Text.Hexadecimal

/-!
# The body of a response

A body ends after a length that the head tells, after a chunk of no bytes, or with the
connection. Each way of framing is written and read here. A body that the connection cuts short
is refused, even where the bytes before the cut make sense.
-/

namespace HealthPanel.Http

/-- How the end of a body is told. -/
inductive Framing
  | length (count : Nat)
  | chunked
  | untilClosed
  deriving DecidableEq

/-! ## Which framing a head tells -/

/-- A text of ASCII with its letters in lower case. -/
def lowerAscii (s : List UInt8) : List UInt8 :=
  s.map fun b => if 0x41 ≤ b ∧ b ≤ 0x5A then b + 0x20 else b

/-- The parts between commas, without blanks around them. -/
def commaParts (s : List UInt8) : List (List UInt8) :=
  (s.splitOnP (· = 0x2C)).map trimBlanks

/-- Whether a byte is a visible character of ASCII, or a blank. -/
def isVisible (b : UInt8) : Bool :=
  b = 0x09 || (0x20 ≤ b && b < 0x7F)

/-- Whether the last of the codings that a head lists is the chunked one. Codings in a text with
other bytes than visible ones are not known. -/
def Head.isChunked (head : Head) : Bool :=
  match (head.values "transfer-encoding").getLast? with
  | none => false
  | some value =>
    value.all isVisible &&
      ((commaParts value).getLast?.map lowerAscii) = some (Utf8.encode "chunked")

/-- The number that digits write, if it fits 64 bits. -/
def decimal? (digits : List UInt8) : Option Nat := do
  guard (digits ≠ [])
  let n ← digits.foldlM (fun n b => return n * 10 + (← Head.digit? b)) 0
  if n < UInt64.size then some n else none

/-- The length that a head tells. It may tell it many times, but only one length. -/
def Head.length? (head : Head) : Option Nat := do
  let lengths ← ((head.values "content-length").flatMap commaParts).mapM decimal?
  let first ← lengths.head?
  if lengths.all (· = first) then some first else none

/-- The longest length that a body may have. -/
def maxLength : Nat := UInt64.size - 3

/-- How the body after a head is framed, unless the head contradicts itself. Some responses have
no body whatever their heads tell. -/
def Head.framing? (head : Head) : Option Framing :=
  if head.status.number ∈ [101, 204, 304] then some (.length 0)
  else if head.values "transfer-encoding" ≠ [] then
    if head.isOld then none else if head.isChunked then some .chunked else some .untilClosed
  else if head.values "content-length" ≠ [] then
    match head.length? with
    | some n => if n ≤ maxLength then some (.length n) else none
    | none => none
  else some .untilClosed

/-! ## Chunks -/

/-- The bytes of a text in ASCII. -/
def ascii (text : List Char) : List UInt8 :=
  text.map fun c => c.toNat.toUInt8

/-- One chunk as it is sent. -/
def writeChunk (chunk : List UInt8) : List UInt8 :=
  ascii (Nat.toDigits 16 chunk.length) ++ [0x0D, 0x0A] ++ chunk ++ [0x0D, 0x0A]

/-- The chunk that ends a body. -/
def lastChunk : List UInt8 :=
  [0x30, 0x0D, 0x0A, 0x0D, 0x0A]

/-- How many bytes may follow the semicolons behind the sizes of all chunks, and one more. -/
def maxExtensions : Nat := 1024 * 16

/-- Reads the end of the line of a chunk's size, after blanks and what may follow a semicolon. It
tells how many bytes have followed semicolons, `extended` of them in the chunks before. -/
def readSizeEnd (extended : Nat) (s : List UInt8) : Incoming Nat :=
  match s.dropWhile isLineBlank with
  | [] => .more
  | 0x3B :: rest =>
    let extended := extended + (rest.takeWhile fun b => b ≠ 0x0D ∧ b ≠ 0x0A).length
    if maxExtensions ≤ extended then .bad
    else
      (readLineBreak (rest.dropWhile fun b => b ≠ 0x0D ∧ b ≠ 0x0A)).map fun _ => extended
  | rest => (readLineBreak rest).map fun _ => extended

/-- Reads the size of a chunk and the line break after it. It also tells what the end of the line
does. -/
def readSize (extended : Nat) (s : List UInt8) : Incoming (Nat × Nat) :=
  let digits := s.takeWhile fun b => (Text.hexValue? b).isSome
  let size := digits.foldl (fun n b => n * 16 + (Text.hexValue? b).getD 0) 0
  match digits, s.drop digits.length with
  | [], [] => .more
  | [], _ => .bad
  | _, rest => if UInt64.size ≤ size then .bad else (readSizeEnd extended rest).map (size, ·)

/-- Reads the lines after the last chunk up to a blank one. At most `fuel` lines are read; the
length of the bytes is always enough. -/
def readTrailers : Nat → List UInt8 → Incoming Unit
  | 0, _ => .more
  | fuel + 1, s =>
    match s with
    | [] => .more
    | 0x0D :: rest => readByte 0x0A rest
    | _ :: rest =>
      (readLineBreak (rest.dropWhile (· ≠ 0x0D))).bind fun _ rest => readTrailers fuel rest

/-- Reads a number of bytes and the line break after them. -/
def readChunk (size : Nat) (s : List UInt8) : Incoming (List UInt8) :=
  if s.length < size then .more
  else (readLineBreak (s.drop size)).map fun _ => s.take size

/-- Reads chunks up to the last one, behind chunks with `extended` bytes after their semicolons. At
most `fuel` chunks are read; the length of the bytes is always enough. -/
def readChunks : Nat → Nat → List UInt8 → Incoming (List UInt8)
  | 0, _, _ => .more
  | fuel + 1, extended, s =>
    (readSize extended s).bind fun (size, extended) rest =>
      if size = 0 then (readTrailers (rest.length + 1) rest).map fun _ => []
      else
        (readChunk size rest).bind fun chunk rest =>
          (readChunks fuel extended rest).map (chunk ++ ·)

/-! ## Bodies -/

/-- Reads a body off the bytes after its head; `closed` says that no more bytes can come. -/
def Framing.read (framing : Framing) (closed : Bool) (s : List UInt8) : Incoming (List UInt8) :=
  let incoming := match framing with
    | .length count => if s.length < count then .more else .done (s.take count) (s.drop count)
    | .chunked => readChunks (s.length + 1) 0 s
    | .untilClosed => if closed then .done s [] else .more
  if closed then incoming.atEnd else incoming

end HealthPanel.Http
