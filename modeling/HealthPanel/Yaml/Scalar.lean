import HealthPanel.Text.Hexadecimal
import HealthPanel.Yaml.Cursor

/-!
# Scalars

The text of a scalar is written plainly, between quotes, or as a block of lines. A line break
inside a plain or a quoted scalar is folded: one break becomes a space, and of several breaks
the first one is dropped. A block keeps its breaks, or folds those between lines that do not
start with a blank.
-/

namespace HealthPanel.Yaml

/-- How a scalar is written. -/
inductive Style
  | plain
  | singleQuoted
  | doubleQuoted
  | literal
  | folded
  deriving DecidableEq

/-- A scalar that has been read. -/
structure ScalarText where
  style : Style
  text : String
  /-- Whether the text ended with a line, so that a key may come next. -/
  endsLine : Bool

/-! ## Gaps between words -/

/-- What stands between two words: blanks on the line of the first, or line breaks. -/
structure Gap where
  blanks : List Char
  breaks : List Char

namespace Gap

/-- Nothing between two words. -/
def empty : Gap := ⟨[], []⟩

/-- Whether the words stand on different lines. -/
def isBroken (gap : Gap) : Bool :=
  !gap.breaks.isEmpty

/-- The text that a gap stands for. -/
def fold (gap : Gap) : List Char :=
  match gap.breaks with
  | [] => gap.blanks
  | ['\n'] => [' ']
  | '\n' :: later => later
  | breaks => breaks

end Gap

/-- Reads a gap, after what is read of it already. A tab before the column `indent` is refused
after a break. At most `fuel` characters are read; the length of the text is always enough. -/
def readGap? (indent : Nat) : Nat → Gap → Cursor → Option (Gap × Cursor)
  | 0, gap, cursor => some (gap, cursor)
  | fuel + 1, gap, cursor =>
    match cursor.takeBreak? with
    | some (c, cursor) => readGap? indent fuel ⟨[], gap.breaks ++ [c]⟩ cursor
    | none =>
      match cursor.peek? 0 with
      | some c =>
        if isBlank c = false then some (gap, cursor)
        else if gap.isBroken = false then
          readGap? indent fuel ⟨gap.blanks ++ [c], []⟩ (cursor.skip 1)
        else if c = '\t' ∧ cursor.mark.column < indent then none
        else readGap? indent fuel gap (cursor.skip 1)
      | none => some (gap, cursor)

/-! ## Plain scalars -/

/-- The word of a plain scalar in front of a text. Inside a flow, flow signs end it, and a colon
may not stand before one. -/
def plainWord? (inFlow : Bool) : List Char → Option (List Char)
  | [] => some []
  | c :: rest =>
    if isBlank c || isBreak c then some []
    else if inFlow && c = ':' && rest.head?.any (",?[]\x7b\x7d".toList.contains ·) then none
    else if c = ':' && endsWord rest.head? then some []
    else if inFlow && ",[]\x7b\x7d".toList.contains c then some []
    else (plainWord? inFlow rest).map (c :: ·)

/-- A plain scalar while it is read. -/
structure PlainDraft where
  text : List Char
  gap : Gap

/-- The draft with another word. -/
def PlainDraft.add (draft : PlainDraft) (word : List Char) : PlainDraft :=
  if word = [] then draft else ⟨draft.text ++ draft.gap.fold ++ word, .empty⟩

/-- Reads words of a plain scalar that lie right of the column before `indent`. -/
def readPlainWords? (inFlow : Bool) (indent : Nat) : Nat → PlainDraft → Cursor →
    Option (PlainDraft × Cursor)
  | 0, draft, cursor => some (draft, cursor)
  | fuel + 1, draft, cursor =>
    if cursor.seesDelimiter || cursor.sees '#' then some (draft, cursor)
    else do
      let word ← plainWord? inFlow cursor.rest
      let cursor := cursor.skip word.length
      let draft := draft.add word
      let next := cursor.peek? 0
      if next.isNone || endsWord next = false then return (draft, cursor)
      let (gap, cursor) ← readGap? indent cursor.rest.length .empty cursor
      let draft := { draft with gap }
      if inFlow = false ∧ cursor.mark.column < indent then return (draft, cursor)
      readPlainWords? inFlow indent fuel draft cursor

/-- Reads a plain scalar. -/
def readPlain? (inFlow : Bool) (indent : Nat) (cursor : Cursor) : Option (ScalarText × Cursor) := do
  let (draft, cursor) ←
    readPlainWords? inFlow indent (cursor.rest.length + 1) ⟨[], .empty⟩ cursor
  return (⟨.plain, String.ofList draft.text, draft.gap.isBroken⟩, cursor)

/-! ## Quoted scalars -/

/-- The character that a one-letter escape stands for. -/
def namedEscape? (letter : Char) : Option Char :=
  match letter with
  | '0' => some '\x00'
  | 'a' => some '\x07'
  | 'b' => some '\x08'
  | 't' | '\t' => some '\t'
  | 'n' => some '\n'
  | 'v' => some '\x0b'
  | 'f' => some '\x0c'
  | 'r' => some '\r'
  | 'e' => some '\x1b'
  | ' ' => some ' '
  | '"' => some '"'
  | '/' => some '/'
  | '\\' => some '\\'
  | 'N' => some '\u0085'
  | '_' => some '\u00a0'
  | 'L' => some '\u2028'
  | 'P' => some '\u2029'
  | _ => none

/-- How many digits follow the letter of a numeric escape. -/
def escapeDigits? (letter : Char) : Option Nat :=
  match letter with
  | 'x' => some 2
  | 'u' => some 4
  | 'U' => some 8
  | _ => none

/-- The number that hexadecimal digits write. -/
def hexNumber? : Nat → List Char → Option Nat
  | n, [] => some n
  | n, c :: rest => do
    guard (c.toNat < 128)
    hexNumber? (n * 16 + (← Text.hexValue? c.toNat.toUInt8)) rest

/-- The character of a code point, if it has one. -/
def codePoint? (n : Nat) : Option Char :=
  if n.isValidChar then some (Char.ofNat n) else none

/-- Reads an escape after its backslash. -/
def readEscape? (cursor : Cursor) : Option (Char × Cursor) := do
  let letter ← cursor.peek? 0
  let cursor := cursor.skip 1
  match escapeDigits? letter with
  | none => return (← namedEscape? letter, cursor)
  | some count =>
    guard (count ≤ cursor.rest.length)
    return (← codePoint? (← hexNumber? 0 (cursor.rest.take count)), cursor.skip count)

/-- What ends a run of characters inside quotes. -/
inductive RunEnd
  | gap
  | quote
  | escapedBreak

/-- Reads the characters of a quoted scalar up to its quote, a gap or an escaped line break. -/
def readRun? (single : Bool) : Nat → Cursor → Option (List Char × RunEnd × Cursor)
  | 0, cursor => some ([], .gap, cursor)
  | fuel + 1, cursor =>
    match cursor.peek? 0 with
    | none => some ([], .gap, cursor)
    | some c =>
      if isBlank c || isBreak c then some ([], .gap, cursor)
      else if single then
        if c = '\'' then
          if cursor.peek? 1 = some '\'' then do
            let (run, finish, cursor) ← readRun? single fuel (cursor.skip 2)
            return ('\'' :: run, finish, cursor)
          else some ([], .quote, cursor)
        else do
          let (run, finish, cursor) ← readRun? single fuel (cursor.skip 1)
          return (c :: run, finish, cursor)
      else if c = '"' then some ([], .quote, cursor)
      else if c = '\\' then
        if (cursor.peek? 1).any isBreak then some ([], .escapedBreak, (cursor.skip 1).skipBreak)
        else do
          let (escaped, cursor) ← readEscape? (cursor.skip 1)
          let (run, finish, cursor) ← readRun? single fuel cursor
          return (escaped :: run, finish, cursor)
      else do
        let (run, finish, cursor) ← readRun? single fuel (cursor.skip 1)
        return (c :: run, finish, cursor)

/-- Reads a gap after an escaped line break: its breaks stand for themselves. -/
def readEscapedGap? (cursor : Cursor) : Option (List Char × Cursor) := do
  let (gap, cursor) ← readGap? 0 cursor.rest.length ⟨[], ['\n']⟩ cursor
  return (gap.breaks.drop 1, cursor)

/-- Reads a quoted scalar after its first quote, up to its last one, after `done`. -/
def readQuotedText? (single : Bool) : Nat → List Char → Cursor → Option (List Char × Cursor)
  | 0, _, _ => none
  | fuel + 1, done, cursor =>
    if cursor.seesDelimiter || cursor.rest.isEmpty then none
    else do
      let (run, finish, cursor) ← readRun? single cursor.rest.length cursor
      let done := done ++ run
      match finish with
      | .quote => return (done, cursor.skip 1)
      | .escapedBreak =>
        let (breaks, cursor) ← readEscapedGap? cursor
        readQuotedText? single fuel (done ++ breaks) cursor
      | .gap =>
        let (gap, cursor) ← readGap? 0 cursor.rest.length .empty cursor
        readQuotedText? single fuel (done ++ gap.fold) cursor

/-- Reads a quoted scalar. -/
def readQuoted? (single : Bool) (cursor : Cursor) : Option (ScalarText × Cursor) := do
  let (text, cursor) ← readQuotedText? single (cursor.rest.length + 1) [] (cursor.skip 1)
  return (⟨if single then .singleQuoted else .doubleQuoted, String.ofList text, false⟩,
    cursor)

/-! ## Blocks -/

/-- What becomes of the line breaks at the end of a block. -/
inductive Chomping
  | strip
  | clip
  | keep
  deriving DecidableEq

/-- The first line of a block: how it ends, and by how much it is indented, if that is said. -/
structure BlockHeader where
  chomping : Chomping
  increment : Option Nat

/-- Reads the sign that says how a block ends. -/
def readChomping (cursor : Cursor) : Chomping × Cursor :=
  if cursor.sees '+' then (.keep, cursor.skip 1)
  else if cursor.sees '-' then (.strip, cursor.skip 1)
  else (.clip, cursor)

/-- Reads the digit that says how a block is indented, if there is one; it is not zero. -/
def readIncrement? (cursor : Cursor) : Option (Option Nat × Cursor) :=
  match cursor.peek? 0 with
  | some c =>
    if c = '0' then none
    else if c.isDigit then some (some (c.toNat - 0x30), cursor.skip 1)
    else some (none, cursor)
  | none => some (none, cursor)

/-- Reads the first line of a block after its sign. -/
def readBlockHeader? (cursor : Cursor) : Option (BlockHeader × Cursor) := do
  let (chomping, after) := readChomping cursor
  let (increment, after) ← readIncrement? after
  let (chomping, after) :=
    if chomping = .clip ∧ increment.isSome then readChomping after else (chomping, after)
  return (⟨chomping, increment⟩, ← after.finishLine?)

/-- Reads the line breaks and the indentation before a line of a block: the breaks, and the
widest indentation of a blank line. `indent` is nothing while it is unknown. -/
def readIndentation? (indent : Option Nat) : Nat → Nat → Cursor → Option (List Char × Nat × Cursor)
  | 0, widest, cursor => some ([], widest, cursor)
  | fuel + 1, widest, cursor =>
    let isInside (column : Nat) := indent.all (column < ·)
    let spaces := (cursor.rest.takeWhile (· = ' ')).length
    let cursor := cursor.skip (match indent with
      | none => spaces
      | some indent => min spaces (indent - cursor.mark.column))
    let widest := max widest cursor.mark.column
    if isInside cursor.mark.column ∧ cursor.sees '\t' then none
    else
      match cursor.takeBreak? with
      | none => some ([], widest, cursor)
      | some (c, cursor) => do
        let (breaks, widest, cursor) ← readIndentation? indent fuel widest cursor
        return (c :: breaks, widest, cursor)

/-- A block while it is read: its text, the break at the end of its last line, the breaks after
that, and whether that line starts with a blank. -/
structure BlockDraft where
  text : List Char
  lineBreak : List Char
  later : List Char
  startsBlank : Bool

/-- The draft with another line. -/
def BlockDraft.add (folded : Bool) (draft : BlockDraft) (line lineBreak later : List Char) :
    BlockDraft :=
  let startsBlank := line.head?.any isBlank
  let joint :=
    if folded && draft.lineBreak = ['\n'] && !draft.startsBlank && !startsBlank then
      if draft.later = [] then [' '] else []
    else draft.lineBreak
  ⟨draft.text ++ joint ++ draft.later ++ line, lineBreak, later, startsBlank⟩

/-- Reads the lines of a block that is indented by `indent`. -/
def readLines? (folded : Bool) (indent : Nat) : Nat → BlockDraft → Cursor →
    Option (BlockDraft × Cursor)
  | 0, draft, cursor => some (draft, cursor)
  | fuel + 1, draft, cursor =>
    if cursor.mark.column ≠ indent ∨ cursor.rest.isEmpty then some (draft, cursor)
    else do
      let (line, cursor) := cursor.takeWhile (!isBreak ·)
      let (lineBreak, cursor) := match cursor.takeBreak? with
        | some (c, cursor) => ([c], cursor)
        | none => ([], cursor)
      let (later, _, cursor) ← readIndentation? (some indent) (cursor.rest.length + 1) 0 cursor
      readLines? folded indent fuel (draft.add folded line lineBreak later) cursor

/-- The text of a block. -/
def BlockDraft.finish (draft : BlockDraft) (chomping : Chomping) : List Char :=
  match chomping with
  | .strip => draft.text
  | .clip => draft.text ++ draft.lineBreak
  | .keep => draft.text ++ draft.lineBreak ++ draft.later

/-- Reads a block in a collection that is indented to `parent`, which is nothing at the top. -/
def readBlock? (folded : Bool) (parent : Option Nat) (cursor : Cursor) :
    Option (ScalarText × Cursor) := do
  let (header, cursor) ← readBlockHeader? (cursor.skip 1)
  let given := header.increment.map (parent.getD 0 + ·)
  let (breaks, widest, cursor) ← readIndentation? given (cursor.rest.length + 1) 0 cursor
  let indent := given.getD (max (max widest (parent.elim 0 (· + 1))) 1)
  let (draft, cursor) ←
    readLines? folded indent (cursor.rest.length + 1) ⟨[], [], breaks, false⟩ cursor
  let text := String.ofList (draft.finish header.chomping)
  return (⟨if folded then .folded else .literal, text, true⟩, cursor)

end HealthPanel.Yaml
