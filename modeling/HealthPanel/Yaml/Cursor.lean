/-!
# Places in a YAML text

A cursor is what is left of a text together with the place reached. Lines end at any of the five
line breaks, a carriage return and a line feed counting as one. A cursor moves along a line, or
over the break at its end.
-/

namespace HealthPanel.Yaml

/-- A place: the characters, the lines, and the characters of its line before it. -/
structure Mark where
  index : Nat
  line : Nat
  column : Nat
  deriving DecidableEq

/-- The place where every text starts. -/
def Mark.start : Mark := ⟨0, 0, 0⟩

/-- The place a number of characters further on the same line. -/
def Mark.right (mark : Mark) (count : Nat) : Mark :=
  ⟨mark.index + count, mark.line, mark.column + count⟩

/-- The start of the next line, after a break of some characters. -/
def Mark.down (mark : Mark) (width : Nat) : Mark :=
  ⟨mark.index + width, mark.line + 1, 0⟩

/-! ## Characters -/

/-- Whether a character may stand in a text at all. -/
def isAllowed (c : Char) : Bool :=
  let n := c.toNat
  n = 0x09 || n = 0x0A || n = 0x0D || (0x20 ≤ n && n ≤ 0x7E) || n = 0x85
    || (0xA0 ≤ n && n ≤ 0xFFFD) || 0x10000 ≤ n

/-- Whether a character ends a line. -/
def isBreak (c : Char) : Bool :=
  c = '\n' || c = '\r' || c = '\u0085' || c = '\u2028' || c = '\u2029'

/-- Whether a character separates words on a line. -/
def isBlank (c : Char) : Bool :=
  c = ' ' || c = '\t'

/-- Whether a character may stand in a name: an ASCII letter or digit, or one of `_` and `-`. -/
def isNameChar (c : Char) : Bool :=
  c.isAlphanum || c = '_' || c = '-'

/-- Whether the character, if there is one, ends a line. -/
def endsLine (c : Option Char) : Bool :=
  c.all isBreak

/-- Whether the character, if there is one, ends a word. -/
def endsWord (c : Option Char) : Bool :=
  c.all fun c => isBlank c || isBreak c

/-! ## Cursors -/

/-- What is left of a text, and the place reached. -/
structure Cursor where
  rest : List Char
  mark : Mark

namespace Cursor

/-- The character some places ahead. -/
def peek? (cursor : Cursor) (ahead : Nat) : Option Char :=
  (cursor.rest.drop ahead).head?

/-- Whether a character comes next. -/
def sees (cursor : Cursor) (c : Char) : Bool :=
  cursor.peek? 0 = some c

/-- The cursor some characters further on the same line. -/
def skip (cursor : Cursor) (count : Nat) : Cursor :=
  ⟨cursor.rest.drop count, cursor.mark.right count⟩

/-- The characters in front that satisfy a test, which no line break does, and the cursor after
them. -/
def takeWhile (cursor : Cursor) (test : Char → Bool) : List Char × Cursor :=
  let taken := cursor.rest.takeWhile test
  (taken, cursor.skip taken.length)

/-- The cursor after the characters in front that satisfy a test. -/
def dropWhile (cursor : Cursor) (test : Char → Bool) : Cursor :=
  (cursor.takeWhile test).2

/-- The line break in front, as it counts in a text, and the cursor after it: all breaks but the
line and the paragraph separator count as a line feed. -/
def takeBreak? (cursor : Cursor) : Option (Char × Cursor) :=
  match cursor.rest with
  | '\r' :: '\n' :: rest => some ('\n', ⟨rest, cursor.mark.down 2⟩)
  | c :: rest =>
    if isBreak c then
      some (if c = '\u2028' ∨ c = '\u2029' then c else '\n', ⟨rest, cursor.mark.down 1⟩)
    else none
  | [] => none

/-- The cursor after the line break in front, if there is one. -/
def skipBreak (cursor : Cursor) : Cursor :=
  match cursor.takeBreak? with
  | some (_, after) => after
  | none => cursor

/-- The cursor after a comment, if one is in front. -/
def skipComment (cursor : Cursor) : Cursor :=
  if cursor.sees '#' then cursor.dropWhile (!isBreak ·) else cursor

/-- Checks that only blanks and a comment are left on the line, and goes to the next one. -/
def finishLine? (cursor : Cursor) : Option Cursor :=
  let cursor := (cursor.dropWhile isBlank).skipComment
  if endsLine (cursor.peek? 0) then some cursor.skipBreak else none

/-- Whether three marks that delimit documents come next. -/
def seesThree (cursor : Cursor) (c : Char) : Bool :=
  cursor.mark.column = 0 && cursor.rest.take 3 = [c, c, c] && endsWord (cursor.peek? 3)

/-- Whether a delimiter of documents comes next. -/
def seesDelimiter (cursor : Cursor) : Bool :=
  cursor.seesThree '-' || cursor.seesThree '.'

end Cursor

end HealthPanel.Yaml
