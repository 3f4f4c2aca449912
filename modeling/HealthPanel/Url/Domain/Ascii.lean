import HealthPanel.Url.Domain.Label
import HealthPanel.Url.Punycode

/-!
# Domain names in ASCII

A name is put into ASCII label by label: its characters are replaced and composed, and a label
that still holds others is written in Punycode behind a mark. A label that carries the mark
already must be one that would be written so.
-/

namespace HealthPanel.Url.Domain

/-- The mark in front of a label in Punycode. -/
def punycodeMark : List Char := "xn--".toList

/-- The most letters of a label in Punycode that are read. -/
def longestRead : Nat := 2000

/-- The most characters of a label that is put into Punycode. -/
def longestWritten : Nat := 1000

/-- Whether all characters are ASCII. -/
def isAscii (label : List Char) : Bool :=
  label.all fun c => c.toNat < 0x80

/-- The characters that a label stands for, if it may stand in a name. -/
def readLabel? (label : List Char) : Option (List Char) :=
  if punycodeMark.isPrefixOf label then
    let letters := label.drop punycodeMark.length
    if letters.length ≤ longestRead then
      (Punycode.decode? letters).filter fun decoded =>
        isAscii label && !isAscii decoded && normalize decoded = decoded && isLabel decoded
    else none
  else if isLabel label then some label
  else none

/-- The ASCII form of the characters that a label stands for. -/
def writeLabel? (label : List Char) : Option (List Char) :=
  if isAscii label then some label
  else if label.length ≤ longestWritten then some (punycodeMark ++ Punycode.encode label)
  else none

/-- Splits a text at every full stop. -/
def splitLabels (text : List Char) : List (List Char) :=
  text.splitOn '.'

/-- The ASCII form of a domain name, if it is one. -/
def toAscii? (name : String) : Option String := do
  let replaced ← name.toList.mapM replace?
  let labels ← (splitLabels (normalize replaced.flatten)).mapM readLabel?
  guard (directionsMix labels)
  let written ← labels.mapM writeLabel?
  return String.ofList (".".toList.intercalate written)

end HealthPanel.Url.Domain
