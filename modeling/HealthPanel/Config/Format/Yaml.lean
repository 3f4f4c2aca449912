import HealthPanel.Config.Format
import HealthPanel.Config.Mismatch
import HealthPanel.Decimal.Layout
import HealthPanel.Yaml.Meaning

/-!
# YAML configuration files

A record is a mapping whose entries come in any order, unknown ones left alone and none repeated;
nothing at all is a record without fields. Any scalar will do for a text. A fault names the fields
that lead to its place, and the place itself unless that is the start of the file.
-/

namespace HealthPanel.YamlFile

open HealthPanel.Yaml (Document Head Mark Meaning Node Style Tag)

/-- A place in a document: a node, and the fields that lead to it. A document without a node is
read as one that has nothing in it. -/
structure Place where
  document : Document
  node : Option Node
  path : List String

/-- A mismatch, and the path and mark where it was met, once they are known. -/
structure Fault where
  difference : Mismatch
  met : Option (List String × Mark)

/-- The mark of a fault in words; the start of a file goes without saying. -/
def describeMark (mark : Mark) : String :=
  if mark.line = 0 ∧ mark.column = 0 then ""
  else " at line " ++ toString (mark.line + 1) ++ " column " ++ toString (mark.column + 1)

/-- The fault in words. -/
def Fault.message (fault : Fault) : String :=
  match fault.met with
  | none => fault.difference.message
  | some (path, mark) =>
    (if path = [] then "" else ".".intercalate path ++ ": ") ++ fault.difference.message
      ++ describeMark mark

/-- The fault placed where it is, or else here. -/
def Fault.orAt (fault : Fault) (path : List String) (mark : Mark) : Fault :=
  { fault with met := fault.met.or (some (path, mark)) }

/-- Reads what a place holds. -/
abbrev Reader (α : Type) := Place → Except Fault α

/-- Fails with a mismatch that is met at a mark. -/
def fail {α : Type} (place : Place) (mark : Mark) (difference : Mismatch) : Except Fault α :=
  .error ⟨difference, some (place.path, mark)⟩

/-- The node of a place that is no alias, or the node that the alias means. -/
def Place.target (place : Place) : Option Node :=
  match place.node with
  | some (.alias _ anchor) => place.document.anchored? anchor
  | node => node

/-! ## Scalars -/

/-- Tags with a meaning of their own. -/
def coreTag (name : String) : Tag :=
  .ofString ("tag:yaml.org,2002:" ++ name)

/-- What a meaning is found to be. -/
def foundMeaning : Meaning → Found
  | .nothing => .nothing
  | .boolean value => .boolean value
  | .integer value =>
    let digits := toString value
    if -(UInt64.size / 2 : Nat) ≤ value ∧ value < UInt64.size then .integer digits
    else .other ("integer `" ++ digits ++ "` as " ++ if 0 ≤ value then "u128" else "i128")
  | .floating value => .floating (Decimal.Layout.pointed.render value)
  | .text value => .text value

/-- The meaning that a tag asks for, or what is expected instead of a text that has none. -/
def taggedMeaning (tag : Tag) (style : Style) (text : String) : Except String Meaning :=
  let orElse (meaning : Option Meaning) (expected : String) :=
    match meaning with
    | some meaning => .ok meaning
    | none => .error expected
  if tag = coreTag "bool" then orElse ((Meaning.boolean? text).map .boolean) "a boolean"
  else if tag = coreTag "int" then orElse ((Meaning.integer? text).map .integer) "an integer"
  else if tag = coreTag "float" then orElse ((Meaning.floating? text).map .floating) "a float"
  else if tag = coreTag "null" then
    orElse (if Meaning.isNull text then some .nothing else none) "null"
  else if tag.bytes.head? = some 0x21 ∧ style = .plain then .ok (.ofPlain text)
  else .ok (.text text)

/-- The difference of a scalar that is not of the kind asked for. -/
def unfitScalar (expected : String) (tag : Option Tag) (style : Style) (text : String) : Mismatch :=
  match tag with
  | none =>
    .kind (foundMeaning (if style = .plain then .ofPlain text else .text text)) expected
  | some tag =>
    match taggedMeaning tag style text with
    | .ok meaning => .kind (foundMeaning meaning) expected
    | .error instead => .value (.text text) instead

/-- Fails because a node is not of the kind asked for. -/
def unfit {α : Type} (place : Place) (expected : String) : Option Node → Except Fault α
  | some (.scalar head style text) =>
    fail place head.mark (unfitScalar expected head.tag style text)
  | some (.sequence head _) => fail place head.mark (.kind .sequence expected)
  | some (.mapping head _) => fail place head.mark (.kind .map expected)
  | some (.alias mark _) => fail place mark (.kind .nothing expected)
  | none => fail place .start (.kind .nothing expected)

/-- Reads the text of a scalar; `expected` says what it is asked for as. -/
def readText (expected : String) : Reader String := fun place =>
  match place.target with
  | some (.scalar _ _ text) => .ok text
  | node => unfit place expected node

/-- Whether a scalar may be read as an integer: it is plain, or a block that is tagged as one. -/
def mayBeInteger (head : Head) (style : Style) : Bool :=
  style = .plain || (style = .literal && head.tag = some (coreTag "int"))

/-- Reads an integer from zero that fits 64 bits. -/
def readNatural : Reader Nat := fun place =>
  match place.target with
  | some (.scalar head style text) =>
    match Meaning.natural? text with
    | some n =>
      if mayBeInteger head style ∧ n < UInt64.size then .ok n
      else unfit place "u64" (some (.scalar head style text))
    | none => unfit place "u64" (some (.scalar head style text))
  | node => unfit place "u64" node

/-! ## Named values -/

/-- The name that a tag gives to a value: what follows its exclamation mark. -/
def tagName? (head : Head) : Option String := do
  let tag ← head.tag
  guard (tag.bytes.head? = some 0x21)
  Utf8.decode? (tag.bytes.drop 1)

/-- The value of a name, and where a name that is unknown was met, as far as that is told. -/
def named {α : Type} (choices : List (String × α)) (name : String)
    (met : Option (List String × Mark)) : Except Fault α :=
  match choices.lookup name with
  | some value => .ok value
  | none => .error ⟨.unknownName name (choices.map Prod.fst), met⟩

/-- Checks that a node which is tagged with a name has nothing in it. -/
def readNothing (place : Place) : Option Node → Except Fault Unit
  | some (.scalar head style text) =>
    if style = .plain ∧ (text = "" ∨ Meaning.isNull text) then .ok ()
    else fail place head.mark (.value (.text text) "null")
  | node => unfit place "unit" node

/-- Reads a named value: a scalar, or a node that is tagged with the name. -/
def readChoice {α : Type} (choices : List (String × α)) : Reader α := fun place =>
  let tagged (head : Head) (untagged : Except Fault α) : Except Fault α :=
    match tagName? head with
    | none => untagged
    | some name => do
      let value ← named choices name none
      readNothing place place.target
      return value
  let expected := "a YAML tag starting with '!'"
  match place.target with
  | some (.scalar head _ text) =>
    tagged head (named choices text (some (place.path, head.mark)))
  | some (.sequence head _) =>
    tagged head (fail place head.mark (.kind .sequence expected))
  | some (.mapping head _) =>
    tagged head (fail place head.mark (.kind .map expected))
  | node => unfit place expected node

/-! ## Records -/

/-- The path to the value of a key; a key that is an alias is not spelled out. -/
def Place.pathTo (place : Place) (key : Node) (name : String) : List String :=
  match key with
  | .alias _ _ => place.path ++ ["?"]
  | _ => place.path ++ [name]

/-- Reads an entry of a record into a draft; one that is unknown is left alone. -/
def readEntry {Draft : Type} (fields : List (Field Reader Draft)) (place : Place) (draft : Draft)
    (entry : Node × Node) : Except Fault Draft := do
  let name ← readText "field identifier" { place with node := some entry.1 }
  match fields.find? (·.name = name) with
  | none => return draft
  | some field =>
    if field.isSet draft then .error ⟨.repeatedField name, none⟩
    else field.read draft { place with node := some entry.2, path := place.pathTo entry.1 name }

/-- Reads the entries of a record. -/
def readEntries {Draft α : Type} (record : Record Reader Draft α) (place : Place)
    (entries : List (Node × Node)) : Except Fault α := do
  let draft ← entries.foldlM (readEntry record.fields place) record.blank
  match record.complete draft with
  | .ok value => return value
  | .error name => .error ⟨.missingField name, none⟩

/-- Reads a record. -/
def readRecord {Draft α : Type} (record : Record Reader Draft α) : Reader α := fun place =>
  let entriesAt (mark : Mark) (entries : List (Node × Node)) :=
    (readEntries record place entries).mapError (·.orAt place.path mark)
  match place.target with
  | none => entriesAt .start []
  | some (.mapping head entries) => entriesAt head.mark entries
  | some (.scalar head .plain "") => entriesAt head.mark []
  | node => unfit place ("struct " ++ record.title) node

instance : Functor Reader where
  map f read place := (read place).map f

/-- Configuration files in YAML. -/
def format : FileFormat Reader :=
  { natural := readNatural
    text := readText "a string"
    choice := readChoice
    record := readRecord }

/-- The configuration that a document holds. -/
def config (document : Document) : Except Fault Config :=
  format.config ⟨document, document.root, []⟩

end HealthPanel.YamlFile
