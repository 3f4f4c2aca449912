import HealthPanel.Json.Value
import HealthPanel.Text.Hexadecimal

/-!
# Writing a document

A document is written either without any blank or over several lines, each level indented by
two spaces. Members are written in the order in which the document lists them. In a text only
the quote, the backslash and the control characters are escaped.
-/

namespace HealthPanel.Json

open HealthPanel.Text (hexDigit)

/-- A character as it stands inside the quotes of a text. -/
def escape (c : Char) : List Char :=
  match c with
  | '"' => ['\\', '"']
  | '\\' => ['\\', '\\']
  | '\x08' => ['\\', 'b']
  | '\x0C' => ['\\', 'f']
  | '\n' => ['\\', 'n']
  | '\r' => ['\\', 'r']
  | '\t' => ['\\', 't']
  | c =>
    if c.toNat < 0x20 then ['\\', 'u', '0', '0', hexDigit (c.toNat / 16), hexDigit (c.toNat % 16)]
    else [c]

/-- A text between its quotes. -/
def quoted (text : String) : String :=
  "\"" ++ String.ofList (text.toList.flatMap escape) ++ "\""

namespace Value

mutual

/-- The document on one line, without blanks. -/
def compact : Value → String
  | null => "null"
  | bool true => "true"
  | bool false => "false"
  | number n => n.render
  | text t => quoted t
  | list items => "[" ++ compactItems items ++ "]"
  | object members => "\x7b" ++ compactMembers members ++ "\x7d"

/-- The elements of a list, commas between them. -/
def compactItems : List Value → String
  | [] => ""
  | [item] => compact item
  | item :: rest => compact item ++ "," ++ compactItems rest

/-- The members of an object, commas between them. -/
def compactMembers : List (String × Value) → String
  | [] => ""
  | [(key, value)] => quoted key ++ ":" ++ compact value
  | (key, value) :: rest => quoted key ++ ":" ++ compact value ++ "," ++ compactMembers rest

end

/-- A new line, indented by two spaces a level. -/
def newLine (level : Nat) : String :=
  String.ofList ('\n' :: List.replicate (2 * level) ' ')

mutual

/-- The document over several lines, inside `level` containers. -/
def prettyAt (level : Nat) : Value → String
  | null => "null"
  | bool true => "true"
  | bool false => "false"
  | number n => n.render
  | text t => quoted t
  | list [] => "[]"
  | list items => "[" ++ prettyItems (level + 1) items ++ newLine level ++ "]"
  | object [] => "\x7b\x7d"
  | object members => "\x7b" ++ prettyMembers (level + 1) members ++ newLine level ++ "\x7d"

/-- The elements of a list, each on a line of its own. -/
def prettyItems (level : Nat) : List Value → String
  | [] => ""
  | [item] => newLine level ++ prettyAt level item
  | item :: rest => newLine level ++ prettyAt level item ++ "," ++ prettyItems level rest

/-- The members of an object, each on a line of its own. -/
def prettyMembers (level : Nat) : List (String × Value) → String
  | [] => ""
  | [(key, value)] => newLine level ++ quoted key ++ ": " ++ prettyAt level value
  | (key, value) :: rest =>
    newLine level ++ quoted key ++ ": " ++ prettyAt level value ++ "," ++ prettyMembers level rest

end

/-- The document over several lines. -/
def pretty (value : Value) : String :=
  prettyAt 0 value

end Value

end HealthPanel.Json
