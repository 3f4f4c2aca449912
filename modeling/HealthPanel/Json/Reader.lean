import HealthPanel.Json.Lexeme
import HealthPanel.Json.Value

/-!
# Reading a document

The loops over the elements of a list and the members of an object are written once, over what
is done with each element; a document is read by recursion on the nesting that is still allowed.
Containers nest at most 127 deep. A body is a document with blanks around it and nothing else.
-/

namespace HealthPanel.Json

/-- Reads the first bytes that are not blank. -/
def peek (ended : Cause) (s : List UInt8) : Except Fault (UInt8 × List UInt8) :=
  match skipBlanks s with
  | [] => .error (.here ended [])
  | b :: rest => .ok (b, rest)

/-- Reads the elements of a list from the first one to the closing bracket, handing the state
on from each to the next. The bytes are always enough to bound how many elements are read. -/
def readElements {σ : Type} (item : σ → Reader σ) : List UInt8 → σ → Reader σ
  | [], _, s => .error (.here .endOfList s)
  | _ :: bound, state, s =>
    match item state s with
    | .error fault => .error fault
    | .ok (state, s) =>
      match peek .endOfList s with
      | .error fault => .error fault
      | .ok (0x5D, s) => .ok (state, s)
      | .ok (0x2C, s) =>
        match peek .endOfValue s with
        | .error fault => .error fault
        | .ok (0x5D, s) => .error (.here .trailingComma s)
        | .ok (b, s) => readElements item bound state (b :: s)
      | .ok (_, s) => .error (.here .listCommaOrEndExpected s)

/-- Reads a list after its opening bracket. -/
def readList {σ : Type} (item : σ → Reader σ) (state : σ) : Reader σ := fun s =>
  match peek .endOfList s with
  | .error fault => .error fault
  | .ok (0x5D, s) => .ok (state, s)
  | .ok (b, s) => readElements item (b :: s) state (b :: s)

/-- Reads the colon between a key and its value. -/
def readColon : Reader Unit := fun s =>
  match peek .endOfObject s with
  | .error fault => .error fault
  | .ok (0x3A, s) => .ok ((), s)
  | .ok (_, s) => .error (.here .colonExpected s)

/-- Reads the members of an object from the quote of the first key to the closing brace, handing
the state on from each to the next. The bytes are always enough to bound how many members are
read. -/
def readMembers {σ : Type} (member : σ → String → Reader σ) : List UInt8 → σ → Reader σ
  | [], _, s => .error (.here .endOfObject s)
  | _ :: bound, state, s =>
    match peek .endOfValue s with
    | .error fault => .error fault
    | .ok (0x7D, s) => .error (.here .trailingComma s)
    | .ok (0x22, s) =>
      match readText s with
      | .error fault => .error fault
      | .ok (key, s) =>
        match member state key s with
        | .error fault => .error fault
        | .ok (state, s) =>
          match peek .endOfObject s with
          | .error fault => .error fault
          | .ok (0x7D, s) => .ok (state, s)
          | .ok (0x2C, s) => readMembers member bound state s
          | .ok (_, s) => .error (.here .objectCommaOrEndExpected s)
    | .ok (_, s) => .error (.here .keyNotText s)

/-- Reads an object after its opening brace. -/
def readObject {σ : Type} (member : σ → String → Reader σ) (state : σ) : Reader σ := fun s =>
  match peek .endOfObject s with
  | .error fault => .error fault
  | .ok (0x7D, s) => .ok (state, s)
  | .ok (b, s) => readMembers member (b :: s) state (b :: s)

/-- Reads a number that starts with its sign or its first digit. -/
def readNumber (s : List UInt8) : Except Fault (Number × List UInt8) :=
  match readNumeral .endOfValue s with
  | .error fault => .error fault
  | .ok (numeral, rest) =>
    match numeral.number with
    | .ok number => .ok (number, rest)
    | .error unread => .error ⟨.numberOutOfRange, rest.length + unread⟩

/-- Reads a value whose lists and objects nest at most `depth` deep. -/
def readValue : Nat → Reader Value
  | depth, s =>
    match peek .endOfValue s with
    | .error fault => .error fault
    | .ok (0x6E, s) => (readWord [0x75, 0x6C, 0x6C] s).map fun r => (.null, r.2)
    | .ok (0x74, s) => (readWord [0x72, 0x75, 0x65] s).map fun r => (.bool true, r.2)
    | .ok (0x66, s) => (readWord [0x61, 0x6C, 0x73, 0x65] s).map fun r => (.bool false, r.2)
    | .ok (0x22, s) => (readText s).map fun r => (.text r.1, r.2)
    | .ok (0x5B, s) =>
      match depth with
      | 0 => .error (.here .tooDeep s)
      | depth + 1 =>
        let item (done : List Value) (s : List UInt8) :=
          (readValue depth s).map fun r => (r.1 :: done, r.2)
        (readList item [] s).map fun r => (.list r.1.reverse, r.2)
    | .ok (0x7B, s) =>
      match depth with
      | 0 => .error (.here .tooDeep s)
      | depth + 1 =>
        let member (members : List (String × Value)) (key : String) (s : List UInt8) :=
          match readColon s with
          | .error fault => .error fault
          | .ok (_, s) => (readValue depth s).map fun r => (insertMember key r.1 members, r.2)
        (readObject member [] s).map fun r => (.object r.1, r.2)
    | .ok (b, s) =>
      if b = 0x2D ∨ isDigit b then (readNumber (b :: s)).map fun r => (.number r.1, r.2)
      else .error (.here .valueExpected s)

/-- How deep the lists and objects of a document may nest. -/
def maxDepth : Nat := 127

/-- Checks that only blanks are left. -/
def readEnd : Reader Unit := fun s =>
  match skipBlanks s with
  | [] => .ok ((), [])
  | _ :: rest => .error (.here .trailingCharacters rest)

/-- Reads the whole of a text with a reader, blanks after it allowed. -/
def readAll {α : Type} (reader : Reader α) (text : List UInt8) : Except LocatedFault α :=
  match reader text with
  | .error fault => .error (fault.locate text)
  | .ok (value, rest) =>
    match readEnd rest with
    | .error fault => .error (fault.locate text)
    | .ok _ => .ok value

/-- The document that a text holds. -/
def Value.ofBytes (text : List UInt8) : Except LocatedFault Value :=
  readAll (readValue maxDepth) text

end HealthPanel.Json
