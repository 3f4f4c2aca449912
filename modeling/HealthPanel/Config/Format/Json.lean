import HealthPanel.Config.Format
import HealthPanel.Config.Mismatch
import HealthPanel.Json.Skip

/-!
# JSON configuration files

A record is an object whose members come in any order, unknown ones skipped and none repeated, or
a list of its fields in order. A value that does not fit is read to its end first, unless it is a
list or an object, and its fault is placed there.
-/

namespace HealthPanel.JsonFile

open HealthPanel.Json (Reader Fault peek)

/-- The fault of a mismatch met with `rest` still unread. -/
def mismatch (difference : Mismatch) (rest : List UInt8) : Fault :=
  .here (.mismatch difference.message) rest

/-- The fault of a value of the wrong kind. -/
def unfit {α : Type} (expected : String) (found : α → Found) :
    Except Fault (α × List UInt8) → Fault
  | .error fault => fault
  | .ok (value, rest) => mismatch (.kind (found value) expected) rest

/-- What a number is found to be. -/
def foundNumber : Json.Number → Found
  | .integer value => .integer (toString value)
  | .double value => .floating (Json.Number.layout.render value)

/-- The fault of a value, its first byte apart, that is not of the kind asked for. -/
def unexpected (expected : String) (b : UInt8) (s : List UInt8) : Fault :=
  match b with
  | 0x6E => unfit expected (fun _ => .null) (Json.readWord [0x75, 0x6C, 0x6C] s)
  | 0x74 => unfit expected (fun _ => .boolean true) (Json.readWord [0x72, 0x75, 0x65] s)
  | 0x66 => unfit expected (fun _ => .boolean false) (Json.readWord [0x61, 0x6C, 0x73, 0x65] s)
  | 0x22 => unfit expected .text (Json.readText s)
  | 0x5B => mismatch (.kind .sequence expected) (b :: s)
  | 0x7B => mismatch (.kind .map expected) (b :: s)
  | b =>
    if b = 0x2D ∨ Json.isDigit b then unfit expected foundNumber (Json.readNumber (b :: s))
    else .here .valueExpected s

/-- Reads a text; `expected` says what it is asked for as. -/
def readText (expected : String) : Reader String := fun s =>
  match peek .endOfValue s with
  | .error fault => .error fault
  | .ok (0x22, s) => Json.readText s
  | .ok (b, s) => .error (unexpected expected b s)

/-- Reads an integer from zero that fits 64 bits. -/
def readNatural : Reader Nat := fun s =>
  match peek .endOfValue s with
  | .error fault => .error fault
  | .ok (b, s) =>
    if b = 0x2D ∨ Json.isDigit b then
      match Json.readNumber (b :: s) with
      | .error fault => .error fault
      | .ok (.integer (.ofNat n), rest) => .ok (n, rest)
      | .ok (.integer value, rest) =>
        .error (mismatch (.value (.integer (toString value)) "u64") rest)
      | .ok (number, rest) => .error (mismatch (.kind (foundNumber number) "u64") rest)
    else .error (unexpected "u64" b s)

/-! ## Named values -/

/-- The value of a name that was read. -/
def named {α : Type} (choices : List (String × α)) : String × List UInt8 →
    Except Fault (α × List UInt8)
  | (name, rest) =>
    match choices.lookup name with
    | some value => .ok (value, rest)
    | none => .error (mismatch (.unknownName name (choices.map Prod.fst)) rest)

/-- Reads the null that stands for the contents of a named value. -/
def readNull : Reader Unit := fun s =>
  match peek .endOfValue s with
  | .error fault => .error fault
  | .ok (0x6E, s) => Json.readWord [0x75, 0x6C, 0x6C] s
  | .ok (b, s) => .error (unexpected "unit" b s)

/-- Reads an object with one member, the name of a value with null beside it, after its opening
brace. -/
def readNamedMember {α : Type} (choices : List (String × α)) : Reader α := fun s => do
  let (value, s) ← named choices (← readText "variant identifier" s)
  let (_, s) ← Json.readColon s
  let (_, s) ← readNull s
  match Json.skipBlanks s with
  | [] => .error (.here .endOfObject [])
  | 0x7D :: s => .ok (value, s)
  | s => .error (.here .valueExpected s)

/-- Reads the name of a value, or an object that names it. -/
def readChoice {α : Type} (choices : List (String × α)) : Reader α := fun s =>
  match peek .endOfValue s with
  | .error fault => .error fault
  | .ok (0x22, s) => (Json.readText s).bind (named choices)
  | .ok (0x7B, s) => readNamedMember choices s
  | .ok (_, s) => .error (.here .valueExpected s)

/-! ## Records -/

/-- The bytes after any blanks and the closing byte in front. -/
def skipClose (close : UInt8) (s : List UInt8) : List UInt8 :=
  match Json.skipBlanks s with
  | [] => []
  | b :: rest => if b = close then rest else b :: rest

/-- Reads a member of a record into a draft; one that is unknown is skipped. -/
def readMember {Draft : Type} (fields : List (Field Reader Draft)) (draft : Draft) (key : String) :
    Reader Draft := fun s =>
  match fields.find? (·.name = key) with
  | none => do
    let (_, s) ← Json.readColon s
    let (_, s) ← Json.skipValue s
    return (draft, s)
  | some field =>
    if field.isSet draft then .error (mismatch (.repeatedField key) (skipClose 0x7D s))
    else do
      let (_, s) ← Json.readColon s
      field.read draft s

/-- Reads a record as an object, after its opening brace. -/
def readObject {Draft α : Type} (record : Record Reader Draft α) : Reader α := fun s => do
  let (draft, s) ← Json.readObject (readMember record.fields) record.blank s
  match record.complete draft with
  | .ok value => .ok (value, s)
  | .error name => .error (mismatch (.missingField name) s)

/-- Reads the closing bracket after the last field. -/
def readListEnd : Reader Unit := fun s =>
  match peek .endOfList s with
  | .error fault => .error fault
  | .ok (0x5D, s) => .ok ((), s)
  | .ok (0x2C, s) =>
    match Json.skipBlanks s with
    | 0x5D :: s => .error (.here .trailingComma s)
    | s => .error (.next .trailingCharacters s)
  | .ok (_, s) => .error (.here .trailingCharacters s)

/-- Reads a comma and what follows it, where the next field of a list is due. Answers whether
there is one. -/
def readSeparator : Reader Bool := fun s =>
  match peek .endOfList s with
  | .error fault => .error fault
  | .ok (0x5D, s) => .ok (false, 0x5D :: s)
  | .ok (0x2C, s) =>
    match peek .endOfValue s with
    | .error fault => .error fault
    | .ok (0x5D, s) => .error (.here .trailingComma s)
    | .ok (b, s) => .ok (true, b :: s)
  | .ok (_, s) => .error (.here .listCommaOrEndExpected s)

/-- Reads the fields of a record in order, up to the end of the list. -/
def readFields {Draft : Type} : List (Field Reader Draft) → Draft → Reader Draft
  | [], draft, s => .ok (draft, s)
  | field :: fields, draft, s => do
    let (draft, s) ← field.read draft s
    if fields.isEmpty then .ok (draft, s)
    else
      match ← readSeparator s with
      | (true, s) => readFields fields draft s
      | (false, s) => .ok (draft, s)

/-- What a record looks like as a list. -/
def listShape (title : String) (length : Nat) : String :=
  "struct " ++ title ++ " with " ++ toString length
    ++ if length = 1 then " element" else " elements"

/-- Reads a record as a list, after its opening bracket. -/
def readList {Draft α : Type} (record : Record Reader Draft α) : Reader α := fun s => do
  let (draft, s) ← match ← peek .endOfList s with
    | (0x5D, s) => Except.ok (record.blank, 0x5D :: s)
    | (b, s) => readFields record.fields record.blank (b :: s)
  match record.complete draft with
  | .ok value =>
    let (_, s) ← readListEnd s
    return (value, s)
  | .error name =>
    .error (mismatch (.tooShort (record.fields.findIdx (·.name = name))
      (listShape record.title record.fields.length)) (skipClose 0x5D s))

/-- Reads a record. -/
def readRecord {Draft α : Type} (record : Record Reader Draft α) : Reader α := fun s =>
  match peek .endOfValue s with
  | .error fault => .error fault
  | .ok (0x5B, s) => readList record s
  | .ok (0x7B, s) => readObject record s
  | .ok (b, s) => .error (unexpected ("struct " ++ record.title) b s)

instance : Functor Reader where
  map f read s := (read s).map fun result => (f result.1, result.2)

/-- Configuration files in JSON. -/
def format : FileFormat Reader :=
  { natural := readNatural
    text := readText "a string"
    choice := readChoice
    record := readRecord }

/-- The configuration that a JSON file holds. -/
def config (contents : String) : Except Json.LocatedFault Config :=
  Json.readAll format.config (Utf8.encode contents)

end HealthPanel.JsonFile
