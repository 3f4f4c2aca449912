import HealthPanel.Yaml.Token

/-!
# Nodes

The tree that tokens describe. A node may carry an anchor, and an alias stands for an anchored
node, even one that it is part of. Anchors are numbered by how many names are known when they are
set, and an alias means the last node with the number that its name has there.
-/

namespace HealthPanel.Yaml

/-- What all nodes that are no aliases carry. -/
structure Head where
  mark : Mark
  anchor : Option Nat
  tag : Option Tag

/-- A node of a document. -/
inductive Node
  | scalar (head : Head) (style : Style) (text : String)
  | sequence (head : Head) (items : List Node)
  | mapping (head : Head) (entries : List (Node × Node))
  | alias (mark : Mark) (anchor : Nat)

namespace Node

/-- A node that is left out, at the place where it would be. -/
def missing (mark : Mark) : Node :=
  .scalar ⟨mark, none, none⟩ .plain ""

mutual

/-- The last node with an anchor, if there is one, in the order in which nodes start. -/
def anchored? (anchor : Nat) : Node → Option Node
  | scalar head style text =>
    if head.anchor = some anchor then some (scalar head style text) else none
  | sequence head items =>
    (anchoredInItems? anchor items).or
      (if head.anchor = some anchor then some (sequence head items) else none)
  | mapping head entries =>
    (anchoredInEntries? anchor entries).or
      (if head.anchor = some anchor then some (mapping head entries) else none)
  | .alias _ _ => none

/-- The last node with an anchor among the items of a sequence. -/
def anchoredInItems? (anchor : Nat) : List Node → Option Node
  | [] => none
  | item :: items => (anchoredInItems? anchor items).or (anchored? anchor item)

/-- The last node with an anchor among the entries of a mapping. -/
def anchoredInEntries? (anchor : Nat) : List (Node × Node) → Option Node
  | [] => none
  | (key, value) :: entries =>
    (anchoredInEntries? anchor entries).or ((anchored? anchor value).or (anchored? anchor key))

end

end Node

/-! ## Reading nodes off tokens -/

/-- What is known while nodes are read: the tokens left, the anchor of each name, and what each
handle of a tag stands for. -/
structure Reading where
  tokens : List Token
  anchors : List (String × Nat)
  handles : List (String × List UInt8)

/-- Reads something off the front of the tokens. -/
abbrev NodeReader := StateT Reading Option

namespace NodeReader

/-- The next token. -/
def peek : NodeReader Token := fun reading =>
  reading.tokens.head?.map (·, reading)

/-- Leaves the next token behind. -/
def advance : NodeReader Unit :=
  modify fun reading => { reading with tokens := reading.tokens.drop 1 }

/-- Whether the next token is one of some. -/
def sees (kinds : List TokenKind) : NodeReader Bool :=
  return kinds.contains (← peek).kind

/-- The node that is left out unless something else than the given tokens comes next. -/
def orMissing (kinds : List TokenKind) (mark : Mark) (item : NodeReader Node) :
    NodeReader Node := do
  if ← sees kinds then return .missing mark else item

/-- Names an anchor and gives it its number. -/
def setAnchor (name : String) : NodeReader Nat := fun reading =>
  let number := reading.anchors.length
  let others := reading.anchors.filter (·.1 ≠ name)
  some (number, { reading with anchors := (name, number) :: others })

/-- The number of a named anchor. -/
def getAnchor (name : String) : NodeReader Nat := fun reading =>
  (reading.anchors.lookup name).map (·, reading)

/-- The tag that is meant by a tag as it is written. -/
def resolve (tag : TagText) : NodeReader Tag := fun reading =>
  if tag.handle = "" then some (⟨tag.suffix⟩, reading)
  else (reading.handles.lookup tag.handle).map fun meaning => (⟨meaning ++ tag.suffix⟩, reading)

/-- Reads an anchor and a tag in either order, as far as they are there. -/
def properties : NodeReader (Option String × Option TagText) := do
  match (← peek).kind with
  | .anchor name =>
    advance
    match (← peek).kind with
    | .tag tag => advance; return (some name, some tag)
    | _ => return (some name, none)
  | .tag tag =>
    advance
    match (← peek).kind with
    | .anchor name => advance; return (some name, some tag)
    | _ => return (none, some tag)
  | _ => return (none, none)

/-! ### Blocks -/

/-- Reads the entries of a block sequence and its end. -/
def blockItems (item : NodeReader Node) : Nat → NodeReader (List Node)
  | 0 => failure
  | fuel + 1 => do
    let token ← peek
    match token.kind with
    | .blockEntry =>
      advance
      let first ← orMissing [.blockEntry, .blockEnd] (token.mark.right 1) item
      return first :: (← blockItems item fuel)
    | .blockEnd => advance; return []
    | _ => failure

/-- Reads the entries of a sequence whose dashes stand at the column of the keys around it. -/
def unindentedItems (item : NodeReader Node) : Nat → NodeReader (List Node)
  | 0 => failure
  | fuel + 1 => do
    let token ← peek
    if token.kind = .blockEntry then
      advance
      let first ← orMissing [.blockEntry, .key, .value, .blockEnd] (token.mark.right 1) item
      return first :: (← unindentedItems item fuel)
    else return []

/-- Reads the value of a block mapping after its key. -/
def blockValue (item : NodeReader Node) : NodeReader Node := do
  let token ← peek
  if token.kind = .value then
    advance
    orMissing [.key, .value, .blockEnd] (token.mark.right 1) item
  else return .missing token.mark

/-- Reads the entries of a block mapping and its end. -/
def blockEntries (item : NodeReader Node) : Nat → NodeReader (List (Node × Node))
  | 0 => failure
  | fuel + 1 => do
    let token ← peek
    match token.kind with
    | .key =>
      advance
      let key ← orMissing [.key, .value, .blockEnd] (token.mark.right 1) item
      let value ← blockValue item
      return (key, value) :: (← blockEntries item fuel)
    | .blockEnd => advance; return []
    | _ => failure

/-! ### Flows -/

/-- Reads the comma before an entry of a flow that is not the first one. -/
def separator (first : Bool) : NodeReader Unit := do
  unless first do
    guard ((← peek).kind = .flowEntry)
    advance

/-- Reads the value of an entry of a flow, up to one of the given tokens. -/
def flowValue (closing : TokenKind) (item : NodeReader Node) : NodeReader Node := do
  if (← peek).kind = .value then
    advance
    orMissing [.flowEntry, closing] (← peek).mark item
  else return .missing (← peek).mark

/-- Reads a key and its value that stand in a flow sequence without braces. A key that is left
out takes the next token with it. -/
def singleEntry (item : NodeReader Node) : NodeReader (Node × Node) := do
  let token ← peek
  let key ←
    if ← sees [.value, .flowEntry, .flowSequenceEnd] then
      advance
      pure (Node.missing (token.mark.right 1))
    else item
  return (key, ← flowValue .flowSequenceEnd item)

/-- Reads the items of a flow sequence and its end. -/
def flowItems (item : NodeReader Node) : Bool → Nat → NodeReader (List Node)
  | _, 0 => failure
  | first, fuel + 1 => do
    if ← sees [.flowSequenceEnd] then advance; return []
    separator first
    let token ← peek
    match token.kind with
    | .flowSequenceEnd => advance; return []
    | .key =>
      advance
      let entry ← singleEntry item
      return .mapping ⟨token.mark, none, none⟩ [entry] :: (← flowItems item false fuel)
    | _ =>
      let next ← item
      return next :: (← flowItems item false fuel)

/-- Reads the entries of a flow mapping and its end. -/
def flowEntries (item : NodeReader Node) : Bool → Nat → NodeReader (List (Node × Node))
  | _, 0 => failure
  | first, fuel + 1 => do
    if ← sees [.flowMappingEnd] then advance; return []
    separator first
    match (← peek).kind with
    | .flowMappingEnd => advance; return []
    | .key =>
      advance
      let key ← orMissing [.value, .flowEntry, .flowMappingEnd] (← peek).mark item
      let value ← flowValue .flowMappingEnd item
      return (key, value) :: (← flowEntries item false fuel)
    | _ =>
      let key ← item
      let value := Node.missing (← peek).mark
      return (key, value) :: (← flowEntries item false fuel)

/-! ### Nodes -/

/-- Where a node stands, which says how it may be written. -/
inductive Site
  | inFlow
  | inBlock
  /-- In a block mapping, where a sequence need not be indented. -/
  | inBlockMapping
  deriving DecidableEq

/-- How many tokens are left, which bounds how many entries any node has. -/
def bound : NodeReader Nat :=
  return (← get).tokens.length + 1

/-- Reads a node that nests at most `depth` deep. -/
def node : Nat → Site → NodeReader Node
  | 0, _ => failure
  | depth + 1, site => do
    let token ← peek
    if let .alias name := token.kind then
      advance
      return .alias token.mark (← getAnchor name)
    let (anchorName, tagText) ← properties
    let tag ← tagText.mapM resolve
    let content ← peek
    let start : NodeReader Head := do
      return ⟨token.mark, ← anchorName.mapM setAnchor, tag⟩
    match content.kind with
    | .blockEntry =>
      if site = .inBlockMapping then
        let head ← start
        return .sequence head (← unindentedItems (node depth .inBlock) (← bound))
      else bare start
    | .scalar style text =>
      advance
      let head ← start
      let head := if tag = some (.ofString "!") then { head with tag := none } else head
      return .scalar head style text
    | .flowSequenceStart =>
      advance
      let head ← start
      return .sequence head (← flowItems (node depth .inFlow) true (← bound))
    | .flowMappingStart =>
      advance
      let head ← start
      return .mapping head (← flowEntries (node depth .inFlow) true (← bound))
    | .blockSequenceStart =>
      if site = .inFlow then bare start
      else
        advance
        let head ← start
        return .sequence head (← blockItems (node depth .inBlock) (← bound))
    | .blockMappingStart =>
      if site = .inFlow then bare start
      else
        advance
        let head ← start
        return .mapping head (← blockEntries (node depth .inBlockMapping) (← bound))
    | _ => bare start
where
  /-- A node that has nothing but an anchor or a tag. -/
  bare (start : NodeReader Head) : NodeReader Node := do
    let head ← start
    if head.anchor.isSome ∨ head.tag.isSome then return .scalar head .plain "" else failure

/-! ### Documents -/

/-- The handles that stand for something unless a directive says otherwise. -/
def defaultHandles : List (String × List UInt8) :=
  [("!", Utf8.encode "!"), ("!!", Utf8.encode "tag:yaml.org,2002:")]

/-- Reads the directives of a document: one version at most, which is 1.1 or 1.2, and one meaning
a handle. -/
def directives (versionSeen : Bool) : Nat → NodeReader Unit
  | 0 => failure
  | fuel + 1 => do
    match (← peek).kind with
    | .directive (.version major minor) =>
      guard (versionSeen = false ∧ major = 1 ∧ (minor = 1 ∨ minor = 2))
      advance
      directives true fuel
    | .directive (.tag handle meaning) =>
      guard (((← get).handles.lookup handle).isNone)
      modify fun reading => { reading with handles := (handle, meaning) :: reading.handles }
      advance
      directives versionSeen fuel
    | _ => modify fun reading => { reading with handles := reading.handles ++ defaultHandles }

/-- Whether a token begins or ends a document. -/
def isBoundary : TokenKind → Bool
  | .directive _ | .documentStart | .documentEnd | .streamEnd => true
  | _ => false

/-- Reads the node of a document, or nothing where a text has no document. -/
def root : NodeReader (Option Node) := do
  match (← peek).kind with
  | .streamEnd => return none
  | .directive _ | .documentStart =>
    directives false (← bound)
    guard ((← peek).kind = .documentStart)
    advance
    let token ← peek
    if isBoundary token.kind then return some (.missing token.mark)
    else return some (← node (← bound) .inBlock)
  | _ =>
    directives false 1
    return some (← node (← bound) .inBlock)

/-- Reads the end of a text, after any ends of documents. -/
def finish : NodeReader Unit := do
  let rest := (← get).tokens.dropWhile (·.kind = .documentEnd)
  guard (rest.head?.any (·.kind = .streamEnd))

end NodeReader

/-- A text with at most one document. -/
structure Document where
  root : Option Node

/-- The node that an anchor means. -/
def Document.anchored? (document : Document) (anchor : Nat) : Option Node :=
  document.root.bind (·.anchored? anchor)

/-- The only document of a text, unless it is no YAML or holds more than one. -/
def Document.ofText? (text : String) : Option Document := do
  let tokens ← tokens? text
  let reader : NodeReader (Option Node) := do
    let root ← NodeReader.root
    NodeReader.finish
    return root
  let (root, _) ← reader.run ⟨tokens, [], []⟩
  return ⟨root⟩

end HealthPanel.Yaml
