import HealthPanel.Text.Hexadecimal
import HealthPanel.Text.Utf8

/-!
# Percent-encoding

A byte is written as a percent sign and two hexadecimal digits. Each part of a URL has a set of
ASCII characters that are written so; characters outside ASCII always are.
-/

namespace HealthPanel.Url

/-- A set of characters that are percent-encoded, besides controls and those outside ASCII. -/
abbrev EncodeSet := List Char

namespace EncodeSet

/-- Controls and characters outside ASCII alone. -/
def controls : EncodeSet := []

/-- The set of a query. -/
def query : EncodeSet := " \"#<>".toList

/-- The set of a query of a special URL. -/
def specialQuery : EncodeSet := '\'' :: query

/-- The set of a fragment. -/
def fragment : EncodeSet := " \"<>`".toList

/-- The set of a segment of a path. -/
def path : EncodeSet := "#?\x7b\x7d".toList ++ fragment

/-- The set of a user name or a password. -/
def userinfo : EncodeSet := "/:;=@[\\]^|".toList ++ path

end EncodeSet

/-- A byte as a percent sign and two digits. -/
def percentByte (b : UInt8) : List Char :=
  ['%', Text.upperHexDigit (b.toNat / 16), Text.upperHexDigit (b.toNat % 16)]

/-- A character, percent-encoded if it is in the set. -/
def percentEncodeChar (set : EncodeSet) (c : Char) : List Char :=
  if c.toNat < 0x20 ∨ 0x7E < c.toNat ∨ c ∈ set then
    (String.utf8EncodeChar c).flatMap percentByte
  else [c]

/-- A text with the characters of the set percent-encoded. -/
def percentEncode (set : EncodeSet) (text : List Char) : String :=
  String.ofList (text.flatMap (percentEncodeChar set))

/-- The bytes of a text, each percent sign with two digits after it taken as a byte. -/
def percentDecode : List UInt8 → List UInt8
  | [] => []
  | 0x25 :: a :: b :: rest =>
    match Text.hexValue? a, Text.hexValue? b with
    | some x, some y => (x * 16 + y).toUInt8 :: percentDecode rest
    | _, _ => 0x25 :: percentDecode (a :: b :: rest)
  | b :: rest => b :: percentDecode rest

end HealthPanel.Url
