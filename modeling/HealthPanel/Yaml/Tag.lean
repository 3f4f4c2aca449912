import HealthPanel.Text.Hexadecimal
import HealthPanel.Text.Utf8
import HealthPanel.Yaml.Cursor

/-!
# Tags, anchors and directives

A tag is written whole between angle brackets, or as a handle and a suffix; a directive gives a
handle the text it stands for. The bytes of a suffix may be escaped by per cent signs, and a zero
byte ends it.
-/

namespace HealthPanel.Yaml

/-- What a node is tagged with. -/
structure Tag where
  bytes : List UInt8
  deriving DecidableEq

/-- The tag of a text. -/
def Tag.ofString (text : String) : Tag :=
  ⟨Utf8.encode text⟩

/-- A tag as it is written: a handle, which is empty for a whole tag, and a suffix. -/
structure TagText where
  handle : String
  suffix : List UInt8
  deriving DecidableEq

/-- What a line in front of a document says. -/
inductive Directive
  | version (major minor : Nat)
  /-- A handle and the text it stands for. -/
  | tag (handle : String) (meaning : List UInt8)
  deriving DecidableEq

/-- Reads a name, which is not empty. -/
def readName? (cursor : Cursor) : Option (String × Cursor) :=
  let (name, cursor) := cursor.takeWhile isNameChar
  if name = [] then none else some (String.ofList name, cursor)

/-- Reads the name of an anchor after its sign. It ends at a blank or at a sign that may follow
a node. -/
def readAnchor? (cursor : Cursor) : Option (String × Cursor) := do
  let (name, cursor) ← readName? cursor
  let next := cursor.peek? 0
  if endsWord next || next.any ("?:,]\x7d%@`".toList.contains ·) then some (name, cursor) else none

/-! ## Tags -/

/-- Whether a character may stand in a suffix; flow signs may only between angle brackets. -/
def isTagChar (bracketed : Bool) (c : Char) : Bool :=
  isNameChar c || ";/?:@&=+$.%!~*'()".toList.contains c
    || (bracketed && ",[]".toList.contains c)

/-- The byte written by a per cent sign and two digits in front. -/
def escapedByte? (chars : List Char) : Option UInt8 :=
  match chars with
  | '%' :: a :: b :: _ => do
    guard (a.toNat < 128 ∧ b.toNat < 128)
    return ((← Text.hexValue? a.toNat.toUInt8) * 16 + (← Text.hexValue? b.toNat.toUInt8)).toUInt8
  | _ => none

/-- How many bytes the character takes that starts with a byte. -/
def encodedLength? (leading : UInt8) : Option Nat :=
  if leading < 0x80 then some 1
  else if leading &&& 0xE0 = 0xC0 then some 2
  else if leading &&& 0xF0 = 0xE0 then some 3
  else if leading &&& 0xF8 = 0xF0 then some 4
  else none

/-- Reads a number of escaped bytes that continue a character. -/
def readContinuation? : Nat → List Char → Option (List UInt8)
  | 0, _ => some []
  | count + 1, chars => do
    let byte ← escapedByte? chars
    guard (byte &&& 0xC0 = 0x80)
    return byte :: (← readContinuation? count (chars.drop 3))

/-- Reads the escaped bytes of one character. -/
def readEscapedChar? (chars : List Char) : Option (List UInt8) := do
  let leading ← escapedByte? chars
  let length ← encodedLength? leading
  return leading :: (← readContinuation? (length - 1) (chars.drop 3))

/-- Reads a suffix, perhaps an empty one. At most `fuel` characters are read; the length of the
text is always enough. -/
def readSuffixBytes? (bracketed : Bool) : Nat → Cursor → Option (List UInt8 × Cursor)
  | 0, cursor => some ([], cursor)
  | fuel + 1, cursor =>
    match cursor.peek? 0 with
    | some '%' => do
      let bytes ← readEscapedChar? cursor.rest
      let (rest, cursor) ← readSuffixBytes? bracketed fuel (cursor.skip (3 * bytes.length))
      return (bytes ++ rest, cursor)
    | some c =>
      if isTagChar bracketed c then do
        let (rest, cursor) ← readSuffixBytes? bracketed fuel (cursor.skip 1)
        return (c.toNat.toUInt8 :: rest, cursor)
      else some ([], cursor)
    | none => some ([], cursor)

/-- Reads a suffix after the characters of it that are already read; both together are not
empty. -/
def readSuffix? (bracketed : Bool) (head : List Char) (cursor : Cursor) :
    Option (List UInt8 × Cursor) := do
  let (bytes, after) ← readSuffixBytes? bracketed cursor.rest.length cursor
  guard (head ≠ [] ∨ after.mark.index ≠ cursor.mark.index)
  return (((head.drop 1).map (·.toNat.toUInt8) ++ bytes).takeWhile (· ≠ 0), after)

/-- Reads what may be a handle: an exclamation mark, a name, and perhaps another mark. -/
def readHandle? (cursor : Cursor) : Option (List Char × Cursor) := do
  guard (cursor.sees '!')
  let (name, cursor) := (cursor.skip 1).takeWhile isNameChar
  if cursor.sees '!' then some ('!' :: name ++ ['!'], cursor.skip 1) else some ('!' :: name, cursor)

/-- Whether what was read is a handle for sure. -/
def isHandle (handle : List Char) : Bool :=
  2 ≤ handle.length && handle.getLast? = some '!'

/-- Reads a tag between angle brackets. -/
def readWholeTag? (cursor : Cursor) : Option (TagText × Cursor) := do
  let (suffix, cursor) ← readSuffix? true [] (cursor.skip 2)
  guard (cursor.sees '>')
  return (⟨"", suffix⟩, cursor.skip 1)

/-- Reads a tag of a handle and a suffix. A mark alone is a whole tag. -/
def readShortTag? (cursor : Cursor) : Option (TagText × Cursor) := do
  let (handle, cursor) ← readHandle? cursor
  if isHandle handle then
    let (suffix, cursor) ← readSuffix? false [] cursor
    return (⟨String.ofList handle, suffix⟩, cursor)
  else
    let (suffix, cursor) ← readSuffix? false handle cursor
    return (if suffix = [] then ⟨"", Utf8.encode "!"⟩ else ⟨"!", suffix⟩, cursor)

/-- Reads a tag. It ends with its word, inside a flow also at a comma. -/
def readTag? (inFlow : Bool) (cursor : Cursor) : Option (TagText × Cursor) := do
  let (tag, cursor) ←
    if cursor.peek? 1 = some '<' then readWholeTag? cursor else readShortTag? cursor
  guard (endsWord (cursor.peek? 0) ∨ inFlow ∧ cursor.sees ',')
  return (tag, cursor)

/-! ## Directives -/

/-- Reads a number of at most nine digits. -/
def readVersionNumber? (cursor : Cursor) : Option (Nat × Cursor) := do
  let (digits, cursor) := cursor.takeWhile Char.isDigit
  guard (1 ≤ digits.length ∧ digits.length ≤ 9)
  return (digits.foldl (fun n c => n * 10 + (c.toNat - 0x30)) 0, cursor)

/-- Reads the two numbers of a version. -/
def readVersion? (cursor : Cursor) : Option (Directive × Cursor) := do
  let (major, cursor) ← readVersionNumber? cursor
  guard (cursor.sees '.')
  let (minor, cursor) ← readVersionNumber? (cursor.skip 1)
  return (.version major minor, cursor)

/-- Reads a handle and what it stands for. -/
def readTagDirective? (cursor : Cursor) : Option (Directive × Cursor) := do
  let (handle, cursor) ← readHandle? cursor
  guard (handle = ['!'] ∨ isHandle handle)
  guard ((cursor.peek? 0).any isBlank)
  let (meaning, cursor) ← readSuffix? true [] (cursor.dropWhile isBlank)
  guard (endsWord (cursor.peek? 0))
  return (.tag (String.ofList handle) meaning, cursor)

/-- Reads a directive after its per cent sign, and the rest of its line. -/
def readDirective? (cursor : Cursor) : Option (Directive × Cursor) := do
  let (name, cursor) ← readName? cursor
  guard (endsWord (cursor.peek? 0))
  let cursor := cursor.dropWhile isBlank
  let (directive, cursor) ← match name with
    | "YAML" => readVersion? cursor
    | "TAG" => readTagDirective? cursor
    | _ => none
  return (directive, ← cursor.finishLine?)

end HealthPanel.Yaml
