import HealthPanel.Text.CodePointSet

/-!
# Blank text

The white space of Unicode: the blanks of ASCII, the next-line control, the spaces of every
width, and the line and paragraph separators. A text is blank when nothing else is in it.
-/

namespace HealthPanel.Text

/-- The white space of Unicode. -/
def whiteSpace : CodePointSet := .ofEdges
  [0x9, 0xE, 0x20, 0x21, 0x85, 0x86, 0xA0, 0xA1, 0x1680, 0x1681, 0x2000, 0x200B, 0x2028, 0x202A,
   0x202F, 0x2030, 0x205F, 0x2060, 0x3000, 0x3001]

/-- Whether a character is white space. -/
def isBlank (c : Char) : Bool :=
  whiteSpace.contains c

/-- The text without white space at either end. -/
def trim (text : String) : String :=
  String.ofList ((text.toList.dropWhile isBlank).reverse.dropWhile isBlank).reverse

end HealthPanel.Text
