import HealthPanel.Http.Incoming
import HealthPanel.Http.StatusCode
import HealthPanel.Text.Utf8

/-!
# The head of a response

A status line and fields, one a line, up to a blank line. Heads that only announce another head
are passed over. A head is refused at the first byte that cannot stand where it does, and at its end
if its status or one of its names cannot be. While it is not whole, what has come of it has to fit
into the buffer of the client.
-/

namespace HealthPanel.Http

/-- A field of a head: its name in lower case, and the bytes of its value. -/
structure HeadField where
  name : String
  value : List UInt8
  deriving DecidableEq

/-- The head of a response. -/
structure Head where
  /-- Whether the response is of the version before the one asked for. -/
  isOld : Bool
  status : StatusCode
  fields : List HeadField
  deriving DecidableEq

/-- Whether a byte may stand in the value of a field. -/
def isValueByte (b : UInt8) : Bool :=
  b = 0x09 || (0x20 ≤ b && b ≠ 0x7F)

/-- Whether a byte may stand in the name of a field. -/
def isNameByte (b : UInt8) : Bool :=
  let c := Char.ofNat b.toNat
  c.isAlphanum || "!#$%&'*+-.^_\x60|~".toList.contains c

/-- Whether a byte is a blank within a line. -/
def isLineBlank (b : UInt8) : Bool :=
  b = 0x20 || b = 0x09

/-- The bytes without blanks at either end. -/
def trimBlanks (s : List UInt8) : List UInt8 :=
  ((s.dropWhile isLineBlank).reverse.dropWhile isLineBlank).reverse

/-- How many bytes of a head fit into the buffer of a client. -/
def maxBuffer : Nat := 8192 + 4096 * 100

/-- What is left open of how a client takes in a head. -/
structure Reader where
  /-- Whether a client that has seen a head that is not whole looks at it again only if it may have
  become whole, and not whenever it has taken in more bytes. -/
  isPatient : Bool
  /-- How many bytes it takes in at a time at most, which is one at least. -/
  room : Nat
  deriving DecidableEq

/-- What a client takes in of bytes that come in together, one after the other. -/
def Reader.takes (reader : Reader) (s : List UInt8) : List (List UInt8) :=
  cut (max reader.room 1) s.length s

namespace Head

/-- The digit that a byte writes. -/
def digit? (b : UInt8) : Option Nat :=
  if 0x30 ≤ b ∧ b ≤ 0x39 then some (b.toNat - 0x30) else none

/-- The version of a response that a byte writes; it is true for the one before the one asked for.
-/
def version? (b : UInt8) : Option Bool :=
  if b = 0x31 then some false else if b = 0x30 then some true else none

/-- Reads a number of three digits. -/
def readThreeDigits (s : List UInt8) : Incoming Nat :=
  (readAs digit? s).bind fun a rest =>
    (readAs digit? rest).bind fun b rest =>
      (readAs digit? rest).map fun c => (a * 10 + b) * 10 + c

/-- Reads the reason of a status, which stands behind a blank if it stands there, and the end of its
line. -/
def readReason (s : List UInt8) : Incoming Unit :=
  if s.head? = some 0x20 then (readWhile isValueByte s).bind fun _ rest => readLineEnd rest
  else readLineEnd s

/-- Reads the line of a status: whether the version is old, and the code. -/
def readStatusLine (s : List UInt8) : Incoming (Bool × Nat) :=
  (readBytes (Utf8.encode "HTTP/1.") s).bind fun _ rest =>
    (readAs version? rest).bind fun isOld rest =>
      (readByte 0x20 rest).bind fun _ rest =>
        (readThreeDigits rest).bind fun code rest =>
          (readReason rest).map fun _ => (isOld, code)

/-- Reads the line of a field. -/
def readField (s : List UInt8) : Incoming HeadField :=
  (readWhile isNameByte s).bind fun name rest =>
    if name = [] then .bad
    else
      (readByte 0x3A rest).bind fun _ rest =>
        (readWhile isValueByte rest).bind fun value rest =>
          (readLineEnd rest).map fun _ =>
            ⟨String.ofList (name.map fun b => (Char.ofNat b.toNat).toLower), trimBlanks value⟩

/-- How many fields a head may have. -/
def maxFields : Nat := 100

/-- How long the name of a field may be. -/
def maxName : Nat := 65535

/-- Whether a line ends where it begins. -/
def isBlankLine (s : List UInt8) : Bool :=
  s.head?.any fun b => b = 0x0D || b = 0x0A

/-- Reads fields up to a blank line, at most `allowed` of them. -/
def readFields : Nat → List UInt8 → Incoming (List HeadField)
  | 0, s =>
    if isBlankLine s then (readLineEnd s).map fun _ => []
    else (readField s).bind fun _ _ => .bad
  | allowed + 1, s =>
    if isBlankLine s then (readLineEnd s).map fun _ => []
    else (readField s).bind fun field rest => (readFields allowed rest).map (field :: ·)

/-- Reads the blank lines in front of a head, at most `fuel` of them; the length of the bytes is
always enough. -/
def readBlankLines : Nat → List UInt8 → Incoming Unit
  | 0, _ => .more
  | fuel + 1, s =>
    if s = [] then .more
    else if isBlankLine s then (readLineEnd s).bind fun _ rest => readBlankLines fuel rest
    else .done () s

/-- The head of a status line and fields, if there is a status of that number and no name is too
long. -/
def ofParts? (isOld : Bool) (code : Nat) (fields : List HeadField) : Option Head :=
  if fields.all (·.name.length ≤ maxName) then (StatusCode.ofNat? code).map (⟨isOld, ·, fields⟩)
  else none

/-- Reads one head, after any blank lines. -/
def readOne (s : List UInt8) : Incoming Head :=
  (readBlankLines (s.length + 1) s).bind fun _ rest =>
    (readStatusLine rest).bind fun (isOld, code) rest =>
      (readFields maxFields rest).bind fun fields rest =>
        match ofParts? isOld code fields with
        | some head => .done head rest
        | none => .bad

/-- Whether a head only announces another one. -/
def isInterim (head : Head) : Bool :=
  head.status.number < 200 && head.status.number ≠ 101

/-- The bytes after the interim heads in front, at most `fuel` of them; the length of the bytes is
always enough. -/
def dropInterim : Nat → List UInt8 → List UInt8
  | 0, s => s
  | fuel + 1, s =>
    match readOne s with
    | .done head rest => if head.isInterim then dropInterim fuel rest else s
    | _ => s

/-- Whether there is a blank line among bytes, behind a line that ends in the same way. -/
def hasBlankLine : List UInt8 → Bool
  | [] => false
  | b :: rest =>
    b = 0x0D && rest.take 3 = [0x0A, 0x0D, 0x0A] || b = 0x0A && rest.head? = some 0x0A
      || hasBlankLine rest

/-- Whether bytes of which `seen` were no whole head may hold one. -/
def mayBeWhole (seen : Nat) (s : List UInt8) : Bool :=
  seen = 0 || hasBlankLine (s.drop (seen - 3))

/-- What a client has left of the bytes that are waiting, `seen` of which were no whole head, and
the head that it reads off them. A client that is patient reads only what may be whole. -/
def look (isPatient : Bool) (seen : Nat) (s : List UInt8) : List UInt8 × Incoming Head :=
  if isPatient && !mayBeWhole seen s then (s, .more)
  else
    let waiting := dropInterim s.length s
    (waiting, readOne waiting)

/-- Reads the head of a response off bytes that the client takes in one after the other, behind
those that are waiting. -/
def readTakes (isPatient : Bool) (waiting : List UInt8) : List (List UInt8) → Incoming Head
  | [] => .more
  | taken :: takes =>
    match look isPatient waiting.length (waiting ++ taken) with
    | (_, .done head rest) => .done head (rest ++ takes.flatten)
    | (_, .bad) => .bad
    | (waiting, .more) =>
      if maxBuffer ≤ waiting.length then .bad else readTakes isPatient waiting takes

/-- Reads the head of a response off the pieces that have come in. -/
def read (reader : Reader) (received : List (List UInt8)) : Incoming Head :=
  readTakes reader.isPatient [] (received.flatMap reader.takes)

/-- The values of the fields with a name. -/
def values (head : Head) (name : String) : List (List UInt8) :=
  (head.fields.filter (·.name = name)).map HeadField.value

end Head

end HealthPanel.Http
