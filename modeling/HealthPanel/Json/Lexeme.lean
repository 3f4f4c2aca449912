import HealthPanel.Json.Fault
import HealthPanel.Json.Number
import HealthPanel.Text.Hexadecimal
import HealthPanel.Text.Utf8

/-!
# The smallest pieces of JSON

Blanks, the three words, texts and numerals, each read off the front of a list of bytes. A
reader answers what it read together with the bytes after it, or the fault it met.
-/

namespace HealthPanel.Json

open HealthPanel.Text (hexValue?)

/-- Reads something off the front of the bytes. -/
abbrev Reader (α : Type) := List UInt8 → Except Fault (α × List UInt8)

/-- The four blanks that may stand between tokens. -/
def isBlank (b : UInt8) : Bool :=
  b = 0x20 || b = 0x0A || b = 0x09 || b = 0x0D

/-- The bytes after any blanks in front. -/
def skipBlanks (s : List UInt8) : List UInt8 :=
  s.dropWhile isBlank

/-- Reads the given bytes, the rest of a word whose first letter is known. -/
def readWord : List UInt8 → Reader Unit
  | [], s => .ok ((), s)
  | _ :: _, [] => .error (.here .endOfValue [])
  | w :: word, b :: s => if b = w then readWord word s else .error (.here .wordExpected s)

/-- The digit that a byte writes. -/
def isDigit (b : UInt8) : Bool :=
  0x30 ≤ b && b ≤ 0x39

/-- The value of a digit. -/
def digitValue (b : UInt8) : Nat :=
  b.toNat - 0x30

/-! ## Texts -/

/-- The number that four hexadecimal digits write. -/
def hexNumber? (a b c d : UInt8) : Option Nat := do
  return (((← hexValue? a) * 16 + (← hexValue? b)) * 16 + (← hexValue? c)) * 16 + (← hexValue? d)

/-- Reads the four hexadecimal digits of a Unicode escape. -/
def readHex : Reader Nat
  | a :: b :: c :: d :: s =>
    match hexNumber? a b c d with
    | some n => .ok (n, s)
    | none => .error (.here .invalidEscape s)
  | _ => .error (.here .endOfText [])

/-- The bytes of a code point. -/
def codePoint (n : Nat) : List UInt8 :=
  String.utf8EncodeChar (Char.ofNat n)

/-- The code point of a leading and a trailing surrogate. -/
def pairedCodePoint (high low : Nat) : Nat :=
  (high - 0xD800) * 0x400 + (low - 0xDC00) + 0x10000

/-- Reads the trailing half of a surrogate pair whose leading half is known. -/
def readTrailing (high : Nat) : Reader (List UInt8)
  | [] => .error (.here .endOfText [])
  | 0x5C :: [] => .error (.here .endOfText [])
  | 0x5C :: 0x75 :: s =>
    match readHex s with
    | .error fault => .error fault
    | .ok (low, rest) =>
      if 0xDC00 ≤ low ∧ low ≤ 0xDFFF then .ok (codePoint (pairedCodePoint high low), rest)
      else .error (.here .loneSurrogate rest)
  | 0x5C :: _ :: s => .error (.here .hexEscapeCutShort s)
  | _ :: s => .error (.here .hexEscapeCutShort s)

/-- Reads a Unicode escape after its letter, surrogates in pairs. -/
def readUnicode (s : List UInt8) : Except Fault (List UInt8 × List UInt8) :=
  match readHex s with
  | .error fault => .error fault
  | .ok (n, rest) =>
    if 0xDC00 ≤ n ∧ n ≤ 0xDFFF then .error (.here .loneSurrogate rest)
    else if 0xD800 ≤ n ∧ n ≤ 0xDBFF then readTrailing n rest
    else .ok (codePoint n, rest)

/-- The byte that a one-letter escape stands for. -/
def shortEscape? (letter : UInt8) : Option UInt8 :=
  match letter with
  | 0x22 => some 0x22
  | 0x5C => some 0x5C
  | 0x2F => some 0x2F
  | 0x62 => some 0x08
  | 0x66 => some 0x0C
  | 0x6E => some 0x0A
  | 0x72 => some 0x0D
  | 0x74 => some 0x09
  | _ => none

/-- Reads an escape after its backslash, as the bytes it stands for. -/
def readEscape : Reader (List UInt8)
  | [] => .error (.here .endOfText [])
  | 0x75 :: s => readUnicode s
  | letter :: s =>
    match shortEscape? letter with
    | some b => .ok ([b], s)
    | none => .error (.here .invalidEscape s)

/-- Reads the contents of a text up to its closing quote, after `done` in reverse. The first list
bounds how many bytes and escapes are read; the bytes themselves are always enough. -/
def readContents : List UInt8 → List UInt8 → Reader (List UInt8)
  | [], _, _ => .error (.here .endOfText [])
  | _ :: _, _, [] => .error (.here .endOfText [])
  | _ :: bound, done, b :: s =>
    if b = 0x22 then .ok (done.reverse, s)
    else if b = 0x5C then
      match readEscape s with
      | .error fault => .error fault
      | .ok (bytes, rest) => readContents bound (bytes.reverse ++ done) rest
    else if b < 0x20 then .error (.here .controlCharacter s)
    else readContents bound (b :: done) s

/-- The fault of contents that are not UTF-8: its place is after the first byte that cannot be
read. -/
def illFormedFault (contents rest : List UInt8) : Fault :=
  .next .invalidCodePoint (Utf8.illFormed contents.length contents ++ 0x22 :: rest)

/-- Reads a text after its opening quote. -/
def readText (s : List UInt8) : Except Fault (String × List UInt8) :=
  match readContents s [] s with
  | .error fault => .error fault
  | .ok (bytes, rest) =>
    match Utf8.decode? bytes with
    | some text => .ok (text, rest)
    | none => .error (illFormedFault (s.take (s.length - rest.length - 1)) rest)

/-! ## Numerals -/

/-- The digits in front of the bytes, and the bytes after them. -/
def takeDigits (s : List UInt8) : List Nat × List UInt8 :=
  ((s.takeWhile isDigit).map digitValue, s.dropWhile isDigit)

/-- Reads the digits before the point: a zero alone, or digits that start with another. `ended`
is the cause to give when there is nothing to read. -/
def readWhole (ended : Cause) : Reader (List Nat)
  | [] => .error (.here ended [])
  | b :: s =>
    if b = 0x30 then
      if s.head?.any isDigit then .error (.next .invalidNumber s) else .ok ([0], s)
    else if isDigit b then .ok (takeDigits (b :: s))
    else .error (.here .invalidNumber s)

/-- Reads a point and the digits after it, if there is a point. -/
def readFraction (ended : Cause) : Reader (List Nat)
  | 0x2E :: s =>
    match takeDigits s with
    | ([], []) => .error (.here ended [])
    | ([], _ :: rest) => .error (.here .invalidNumber rest)
    | digits => .ok digits
  | s => .ok ([], s)

/-- Reads the sign of an exponent. -/
def readExponentSign : List UInt8 → Bool × List UInt8
  | 0x2B :: s => (false, s)
  | 0x2D :: s => (true, s)
  | s => (false, s)

/-- Reads an exponent, if there is one. -/
def readExponent (ended : Cause) : Reader (Option Exponent)
  | [] => .ok (none, [])
  | b :: s =>
    if b = 0x65 ∨ b = 0x45 then
      let (negative, s) := readExponentSign s
      match takeDigits s with
      | ([], []) => .error (.here ended [])
      | ([], _ :: rest) => .error (.here .invalidNumber rest)
      | (digits, rest) => .ok (some ⟨negative, digits⟩, rest)
    else .ok (none, b :: s)

/-- Reads a numeral that starts with its sign or its first digit. -/
def readNumeral (ended : Cause) (s : List UInt8) : Except Fault (Numeral × List UInt8) :=
  let negative := s.head? = some 0x2D
  let s := if negative then s.drop 1 else s
  match readWhole ended s with
  | .error fault => .error fault
  | .ok (whole, s) =>
    match readFraction ended s with
    | .error fault => .error fault
    | .ok (fraction, s) =>
      match readExponent ended s with
      | .error fault => .error fault
      | .ok (exponent, s) => .ok (⟨negative, whole, fraction, exponent⟩, s)

end HealthPanel.Json
