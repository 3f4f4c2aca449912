/-!
# What can be wrong with a JSON text

A fault is a cause and the place where reading stopped. The place is kept as the number of bytes
that were still unread, so that a reader need not count; a line and a column are worked out
from the whole text when the fault is shown.
-/

namespace HealthPanel.Json

/-- Why a text is no document. -/
inductive Cause
  | endOfList
  | endOfObject
  | endOfText
  | endOfValue
  | colonExpected
  | listCommaOrEndExpected
  | objectCommaOrEndExpected
  | wordExpected
  | valueExpected
  | invalidEscape
  | invalidNumber
  | numberOutOfRange
  | invalidCodePoint
  | controlCharacter
  | keyNotText
  | loneSurrogate
  | hexEscapeCutShort
  | trailingComma
  | trailingCharacters
  | tooDeep
  /-- The text is JSON, but not of the shape asked for. -/
  | mismatch (message : String)
  deriving DecidableEq

/-- The three ways in which a text fails. -/
inductive Category
  | malformed
  | cutShort
  | mismatched
  deriving DecidableEq

namespace Cause

/-- The cause in words. -/
def message : Cause → String
  | endOfList => "EOF while parsing a list"
  | endOfObject => "EOF while parsing an object"
  | endOfText => "EOF while parsing a string"
  | endOfValue => "EOF while parsing a value"
  | colonExpected => "expected `:`"
  | listCommaOrEndExpected => "expected `,` or `]`"
  | objectCommaOrEndExpected => "expected `,` or `\x7d`"
  | wordExpected => "expected ident"
  | valueExpected => "expected value"
  | invalidEscape => "invalid escape"
  | invalidNumber => "invalid number"
  | numberOutOfRange => "number out of range"
  | invalidCodePoint => "invalid unicode code point"
  | controlCharacter => "control character (\\u0000-\\u001F) found while parsing a string"
  | keyNotText => "key must be a string"
  | loneSurrogate => "lone leading surrogate in hex escape"
  | hexEscapeCutShort => "unexpected end of hex escape"
  | trailingComma => "trailing comma"
  | trailingCharacters => "trailing characters"
  | tooDeep => "recursion limit exceeded"
  | mismatch message => message

/-- A text is cut short when it ends where more is due. -/
def category : Cause → Category
  | endOfList | endOfObject | endOfText | endOfValue => .cutShort
  | mismatch _ => .mismatched
  | _ => .malformed

end Cause

/-- A cause, and how many bytes of the text were unread when it was met. -/
structure Fault where
  cause : Cause
  unread : Nat
  deriving DecidableEq

/-- The fault met with `rest` still unread. -/
def Fault.here (cause : Cause) (rest : List UInt8) : Fault :=
  ⟨cause, rest.length⟩

/-- The fault of the byte that comes next: its place is after that byte, if there is one. -/
def Fault.next (cause : Cause) (rest : List UInt8) : Fault :=
  ⟨cause, rest.length - 1⟩

/-- A place in a text: lines from one, and the bytes of that line before the place. -/
structure Position where
  line : Nat
  column : Nat
  deriving DecidableEq

/-- The place after the bytes read. -/
def Position.after (read : List UInt8) : Position :=
  { line := 1 + read.count 10
    column := (read.reverse.takeWhile (· != 10)).length }

/-- A fault with the place where it was met. -/
structure LocatedFault where
  cause : Cause
  position : Position
  deriving DecidableEq

/-- Places a fault in the text it was met in. -/
def Fault.locate (text : List UInt8) (fault : Fault) : LocatedFault :=
  ⟨fault.cause, .after (text.take (text.length - fault.unread))⟩

/-- A fault with its place, in words. -/
def LocatedFault.message (fault : LocatedFault) : String :=
  fault.cause.message ++ " at line " ++ toString fault.position.line
    ++ " column " ++ toString fault.position.column

end HealthPanel.Json
