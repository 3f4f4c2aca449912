import HealthPanel.Yaml.Scalar
import HealthPanel.Yaml.Tag

/-!
# Tokens

The tokens of a text with their places. The nesting of blocks shows in the columns alone, so the
tokens that open and close a block are put in where the column grows and shrinks. Whether a node
is a key is known only at the colon after it: until then the place where it starts is remembered,
and the tokens that make it a key are put in there. Such a key stands on one line and takes at
most 1024 characters.
-/

namespace HealthPanel.Yaml

/-- What a token is. -/
inductive TokenKind
  | directive (directive : Directive)
  | documentStart
  | documentEnd
  | streamEnd
  | blockSequenceStart
  | blockMappingStart
  | blockEnd
  | flowSequenceStart
  | flowSequenceEnd
  | flowMappingStart
  | flowMappingEnd
  | blockEntry
  | flowEntry
  | key
  | value
  | anchor (name : String)
  | alias (name : String)
  | tag (tag : TagText)
  | scalar (style : Style) (text : String)
  deriving DecidableEq

/-- A token and the place where it starts. -/
structure Token where
  kind : TokenKind
  mark : Mark

/-- A place where a key may have started: how many tokens were before it, and whether there must
be a key, because it stands at the column of its mapping. -/
structure PossibleKey where
  mark : Mark
  tokensBefore : Nat
  required : Bool

/-- A text that is partly read. -/
structure Scan where
  cursor : Cursor
  tokens : Array Token
  /-- The columns of the open blocks, the innermost one first. -/
  indents : List Nat
  /-- The place where a key may have started, outside of all flows. -/
  blockKey : Option PossibleKey
  /-- The same for each open flow, the innermost one first. -/
  flowKeys : List (Option PossibleKey)
  /-- Whether a key may start here. -/
  keyAllowed : Bool

namespace Scan

/-- A text that is still unread. -/
def start (text : List Char) : Scan :=
  { cursor := ⟨text, .start⟩, tokens := #[], indents := [], blockKey := none, flowKeys := [],
    keyAllowed := true }

/-- Whether a flow is open. -/
def inFlow (scan : Scan) : Bool :=
  !scan.flowKeys.isEmpty

/-- The place where a key may have started in the innermost collection. -/
def possibleKey (scan : Scan) : Option PossibleKey :=
  scan.flowKeys.head?.getD scan.blockKey

/-- Sets the place where a key may have started in the innermost collection. -/
def setPossibleKey (scan : Scan) (key : Option PossibleKey) : Scan :=
  match scan.flowKeys with
  | [] => { scan with blockKey := key }
  | _ :: outer => { scan with flowKeys := key :: outer }

/-- The column right of the innermost block. -/
def innerColumn (scan : Scan) : Nat :=
  scan.indents.head?.elim 0 (· + 1)

/-- Adds a token that starts at a place. -/
def add (scan : Scan) (kind : TokenKind) (mark : Mark) : Scan :=
  { scan with tokens := scan.tokens.push ⟨kind, mark⟩ }

/-! ## Possible keys -/

/-- Whether a key that may have started is too long for one by now. -/
def isStale (mark : Mark) (key : PossibleKey) : Bool :=
  key.mark.line < mark.line || key.mark.index + 1024 < mark.index

/-- Forgets a key that is too long for one; nothing if it had to be one. -/
def freshen? (mark : Mark) (key : Option PossibleKey) : Option (Option PossibleKey) :=
  match key with
  | none => some none
  | some key =>
    if isStale mark key then if key.required then none else some none else some (some key)

/-- Forgets all keys that are too long for one. -/
def freshenKeys? (scan : Scan) : Option Scan := do
  let mark := scan.cursor.mark
  return { scan with
    blockKey := ← freshen? mark scan.blockKey
    flowKeys := ← scan.flowKeys.mapM (freshen? mark) }

/-- Forgets the key that may have started in the innermost collection, unless it had to be one. -/
def dropKey? (scan : Scan) : Option Scan :=
  if scan.possibleKey.any (·.required) then none else some (scan.setPossibleKey none)

/-- Remembers that a key may start here, if it may. -/
def markKey? (scan : Scan) : Option Scan :=
  if scan.keyAllowed then do
    let scan ← scan.dropKey?
    let mark := scan.cursor.mark
    return scan.setPossibleKey (some
      { mark, tokensBefore := scan.tokens.size
        required := !scan.inFlow && scan.indents.head? = some mark.column })
  else some scan

/-! ## Blocks -/

/-- Opens a block at a column that is right of the innermost one, outside of flows. Its token
goes in front of the tokens from `position` on. -/
def openBlock (scan : Scan) (kind : TokenKind) (mark : Mark) (position : Nat) : Scan :=
  if scan.inFlow || scan.indents.head?.any (mark.column ≤ ·) then scan
  else { scan with
    indents := mark.column :: scan.indents
    tokens := scan.tokens.insertIdxIfInBounds position ⟨kind, mark⟩ }

/-- Closes the blocks that lie right of a column. -/
def closeBlocks (column : Nat) (mark : Mark) : List Nat → Array Token → List Nat × Array Token
  | [], tokens => ([], tokens)
  | indent :: outer, tokens =>
    if column < indent then closeBlocks column mark outer (tokens.push ⟨.blockEnd, mark⟩)
    else (indent :: outer, tokens)

/-- Closes the blocks that the place reached lies left of. -/
def unindent (scan : Scan) : Scan :=
  if scan.inFlow then scan
  else
    let mark := scan.cursor.mark
    let (indents, tokens) := closeBlocks mark.column mark scan.indents scan.tokens
    { scan with indents, tokens }

/-- Closes all blocks. -/
def unindentAll (scan : Scan) : Scan :=
  if scan.inFlow then scan
  else
    let ends := scan.indents.map fun _ => Token.mk .blockEnd scan.cursor.mark
    { scan with indents := [], tokens := scan.tokens ++ ends }

/-! ## Single tokens -/

/-- Adds a token that takes some characters. -/
def take (scan : Scan) (kind : TokenKind) (width : Nat) (keyAllowed : Bool) : Scan :=
  { scan.add kind scan.cursor.mark with cursor := scan.cursor.skip width, keyAllowed }

/-- Adds a token that has been read up to a cursor. -/
def put (scan : Scan) (kind : TokenKind) (cursor : Cursor) (keyAllowed : Bool) : Scan :=
  { scan.add kind scan.cursor.mark with cursor, keyAllowed }

/-- Ends the text, as if there were a line break. -/
def finish? (scan : Scan) : Option Scan := do
  let mark := scan.cursor.mark
  let mark := if mark.column = 0 then mark else mark.down 0
  let scan ← { scan with cursor := ⟨[], mark⟩ }.unindentAll.dropKey?
  return scan.take .streamEnd 0 false

/-- Reads a directive. -/
def directive? (scan : Scan) : Option Scan := do
  let scan ← scan.unindentAll.dropKey?
  let (directive, cursor) ← readDirective? (scan.cursor.skip 1)
  return scan.put (.directive directive) cursor false

/-- Reads a delimiter of documents. -/
def delimiter? (scan : Scan) (kind : TokenKind) : Option Scan := do
  return (← scan.unindentAll.dropKey?).take kind 3 false

/-- Opens a flow. -/
def openFlow? (scan : Scan) (kind : TokenKind) : Option Scan := do
  let scan ← scan.markKey?
  return { scan with flowKeys := none :: scan.flowKeys }.take kind 1 true

/-- Closes the innermost flow, if one is open. -/
def closeFlow? (scan : Scan) (kind : TokenKind) : Option Scan := do
  let scan ← scan.dropKey?
  return { scan with flowKeys := scan.flowKeys.drop 1 }.take kind 1 false

/-- Reads a comma of a flow. -/
def comma? (scan : Scan) : Option Scan := do
  return (← scan.dropKey?).take .flowEntry 1 true

/-- Opens a block here, where a key may start. -/
def openBlockHere? (scan : Scan) (kind : TokenKind) : Option Scan :=
  if scan.inFlow then some scan
  else if scan.keyAllowed then some (scan.openBlock kind scan.cursor.mark scan.tokens.size)
  else none

/-- Reads the dash of a block entry. -/
def dash? (scan : Scan) : Option Scan := do
  return (← (← scan.openBlockHere? .blockSequenceStart).dropKey?).take .blockEntry 1 true

/-- Reads the question mark of a key. -/
def key? (scan : Scan) : Option Scan := do
  let scan ← (← scan.openBlockHere? .blockMappingStart).dropKey?
  return scan.take .key 1 (!scan.inFlow)

/-- Reads the colon of a value, which makes what may have started as a key a key. -/
def value? (scan : Scan) : Option Scan :=
  match scan.possibleKey with
  | some key =>
    let tokens := scan.tokens.insertIdxIfInBounds key.tokensBefore ⟨.key, key.mark⟩
    let scan := { scan with tokens }.openBlock .blockMappingStart key.mark key.tokensBefore
    some ((scan.setPossibleKey none).take .value 1 false)
  | none => do
    let scan ← scan.openBlockHere? .blockMappingStart
    return scan.take .value 1 (!scan.inFlow)

/-- Reads an anchor or an alias. -/
def anchor? (scan : Scan) (kind : String → TokenKind) : Option Scan := do
  let scan ← scan.markKey?
  let (name, cursor) ← readAnchor? (scan.cursor.skip 1)
  return scan.put (kind name) cursor false

/-- Reads a tag. -/
def tag? (scan : Scan) : Option Scan := do
  let scan ← scan.markKey?
  let (tag, cursor) ← readTag? scan.inFlow scan.cursor
  return scan.put (.tag tag) cursor false

/-- Reads a block of lines. -/
def block? (scan : Scan) (folded : Bool) : Option Scan := do
  let scan ← scan.dropKey?
  let (scalar, cursor) ← readBlock? folded scan.indents.head? scan.cursor
  return scan.put (.scalar scalar.style scalar.text) cursor scalar.endsLine

/-- Reads a quoted scalar. -/
def quoted? (scan : Scan) (single : Bool) : Option Scan := do
  let scan ← scan.markKey?
  let (scalar, cursor) ← readQuoted? single scan.cursor
  return scan.put (.scalar scalar.style scalar.text) cursor scalar.endsLine

/-- Reads a plain scalar. -/
def plain? (scan : Scan) : Option Scan := do
  let scan ← scan.markKey?
  let (scalar, cursor) ← readPlain? scan.inFlow scan.innerColumn scan.cursor
  return scan.put (.scalar scalar.style scalar.text) cursor scalar.endsLine

/-! ## The whole text -/

/-- The place of the next token: blanks, comments and line breaks are skipped. A tab is a blank
only where no key may start. Outside of flows a key may start on every new line. -/
def skipSpace (scan : Scan) : Nat → Cursor → Bool → Cursor × Bool
  | 0, cursor, keyAllowed => (cursor, keyAllowed)
  | fuel + 1, cursor, keyAllowed =>
    let cursor := cursor.dropWhile fun c =>
      c = ' ' || (c = '\t' && (scan.inFlow || !keyAllowed))
    let cursor := cursor.skipComment
    match cursor.takeBreak? with
    | some (_, cursor) => skipSpace scan fuel cursor (keyAllowed || !scan.inFlow)
    | none => (cursor, keyAllowed)

/-- The scan at its next token. A byte order mark may stand in front of the text. -/
def toNextToken (scan : Scan) : Scan :=
  let cursor := if scan.cursor.mark.index = 0 ∧ scan.cursor.sees '\ufeff' then scan.cursor.skip 1
    else scan.cursor
  let (cursor, keyAllowed) := scan.skipSpace (cursor.rest.length + 1) cursor scan.keyAllowed
  { scan with cursor, keyAllowed }

/-- Whether a plain scalar may start here: with no sign that means something else, or with one
that does not before what follows it. -/
def startsPlain (scan : Scan) (c : Char) : Bool :=
  let next := scan.cursor.peek? 1
  if c = '-' then !next.any isBlank
  else if c = '?' ∨ c = ':' then !scan.inFlow && !endsWord next
  else !",[]\x7b\x7d#&*!|>'\"%@\x60".toList.contains c && !endsWord (some c)

/-- Reads the next token, which starts with a character. -/
def token? (scan : Scan) (c : Char) : Option Scan :=
  let cursor := scan.cursor
  let standsAlone := endsWord (cursor.peek? 1)
  if cursor.mark.column = 0 ∧ c = '%' then scan.directive?
  else if cursor.seesThree '-' then scan.delimiter? .documentStart
  else if cursor.seesThree '.' then scan.delimiter? .documentEnd
  else if c = '-' ∧ standsAlone then scan.dash?
  else if c = '?' ∧ (scan.inFlow ∨ standsAlone) then scan.key?
  else if c = ':' ∧ (scan.inFlow ∨ standsAlone) then scan.value?
  else if scan.startsPlain c then scan.plain?
  else match c with
    | '[' => scan.openFlow? .flowSequenceStart
    | ']' => scan.closeFlow? .flowSequenceEnd
    | '\x7b' => scan.openFlow? .flowMappingStart
    | '\x7d' => scan.closeFlow? .flowMappingEnd
    | ',' => scan.comma?
    | '*' => scan.anchor? .alias
    | '&' => scan.anchor? .anchor
    | '!' => scan.tag?
    | '\'' => scan.quoted? true
    | '"' => scan.quoted? false
    | '|' => if scan.inFlow then none else scan.block? false
    | '>' => if scan.inFlow then none else scan.block? true
    | _ => none

/-- Reads all tokens. At most `fuel` tokens are read; the length of the text is always enough. -/
def run? : Nat → Scan → Option (Array Token)
  | 0, _ => none
  | fuel + 1, scan => do
    let scan := (← scan.toNextToken.freshenKeys?).unindent
    match scan.cursor.peek? 0 with
    | none => return (← scan.finish?).tokens
    | some c => run? fuel (← scan.token? c)

end Scan

/-- The tokens of a text, unless it is no YAML. -/
def tokens? (text : String) : Option (List Token) := do
  let chars := text.toList
  guard (chars.all isAllowed)
  return (← Scan.run? (chars.length + 1) (.start chars)).toList

end HealthPanel.Yaml
