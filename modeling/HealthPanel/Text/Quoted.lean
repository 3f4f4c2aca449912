import HealthPanel.Text.Unprintable

/-!
# Quoted text in messages

A message shows a text between quotes, so that its ends and every character in it can be told:
quotes and backslashes are escaped, the common controls have short names, and a character
without a shape of its own is shown by its code point.
-/

namespace HealthPanel.Text

/-- A code point in lower-case hexadecimal. -/
def hexadecimal (c : Char) : List Char :=
  Nat.toDigits 16 c.toNat

/-- A character as it stands inside a quoted text. -/
def quotedChar (c : Char) : List Char :=
  match c with
  | '\x00' => ['\\', '0']
  | '\t' => ['\\', 't']
  | '\n' => ['\\', 'n']
  | '\r' => ['\\', 'r']
  | '"' => ['\\', '"']
  | '\\' => ['\\', '\\']
  | c =>
    if unprintable.contains c then ['\\', 'u', '\x7b'] ++ hexadecimal c ++ ['\x7d'] else [c]

/-- A text between quotes. -/
def quote (text : String) : String :=
  "\"" ++ String.ofList (text.toList.flatMap quotedChar) ++ "\""

end HealthPanel.Text
