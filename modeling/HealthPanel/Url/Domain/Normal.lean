import HealthPanel.Url.Domain.Compositions

/-!
# Normal form of domain names

A name is put into composed form: every character is taken apart, marks are sorted by their
combining class, and bases are put together again with the marks that belong to them.
-/

namespace HealthPanel.Url.Domain

/-- The combining class of a character; zero for a base. -/
def combiningClass (c : Char) : Nat :=
  match markRanges.find? fun range => range.first ≤ c.toNat ∧ c.toNat ≤ range.last with
  | some range => range.combiningClass
  | none => 0

/-! ## Syllables of Hangul -/

/-- The first syllable. -/
def firstSyllable : Nat := 0xAC00

/-- The code point before the first final consonant. -/
def beforeFinals : Nat := 0x11A7

/-- The letters of a syllable. -/
def lettersOfSyllable? (c : Char) : Option (List Char) :=
  let n := c.toNat
  if firstSyllable ≤ n ∧ n < firstSyllable + 11172 then
    let i := n - firstSyllable
    let firstTwo := [Char.ofNat (0x1100 + i / 588), Char.ofNat (0x1161 + i % 588 / 28)]
    some (if i % 28 = 0 then firstTwo else firstTwo ++ [Char.ofNat (beforeFinals + i % 28)])
  else none

/-- The syllable of two letters, or of a syllable without a final consonant and such a
consonant. -/
def syllable? (a b : Char) : Option Char :=
  let m := a.toNat
  let n := b.toNat
  if 0x1100 ≤ m ∧ m < 0x1113 ∧ 0x1161 ≤ n ∧ n < 0x1176 then
    some (Char.ofNat (firstSyllable + (m - 0x1100) * 588 + (n - 0x1161) * 28))
  else if firstSyllable ≤ m ∧ m < firstSyllable + 11172 ∧ (m - firstSyllable) % 28 = 0
      ∧ beforeFinals < n ∧ n < beforeFinals + 28 then
    some (Char.ofNat (m + (n - beforeFinals)))
  else none

/-! ## Taking apart, sorting, composing -/

/-- A character taken apart, in at most `fuel` steps; no character needs more than four. -/
def decompose : Nat → Char → List Char
  | 0, c => [c]
  | fuel + 1, c =>
    match lettersOfSyllable? c with
    | some letters => letters
    | none =>
      match compositions.find? fun composition => composition.1 = c.toNat with
      | some (_, base, mark) => decompose fuel (Char.ofNat base) ++ [Char.ofNat mark]
      | none => [c]

/-- Puts a character in front of a reversed text, a mark behind those of a higher class. -/
def insertMark (c : Char) : List Char → List Char
  | [] => [c]
  | other :: rest =>
    if combiningClass c ≠ 0 ∧ combiningClass c < combiningClass other then
      other :: insertMark c rest
    else c :: other :: rest

/-- Sorts each run of marks by class, marks of one class keeping their order. -/
def sortMarks (text : List Char) : List Char :=
  (text.foldl (fun sorted c => insertMark c sorted) []).reverse

/-- The composed character of a base and a character after it. -/
def compose? (base c : Char) : Option Char :=
  match syllable? base c with
  | some syllable => some syllable
  | none =>
    (compositions.find? fun composition =>
      composition.2.1 = base.toNat ∧ composition.2.2 = c.toNat).map fun composition =>
        Char.ofNat composition.1

/-- Composes a sorted text. `done` is what lies before the last base, `base` that base, and
`marks` what follows it; all are reversed. -/
def composeFrom (done : List Char) (base : Option Char) (marks : List Char) :
    List Char → List Char
  | [] => (marks ++ base.toList ++ done).reverse
  | c :: rest =>
    let isBase := combiningClass c = 0
    match base with
    | none => if isBase then composeFrom done (some c) [] rest
      else composeFrom (c :: done) none [] rest
    | some b =>
      let blocked := marks.head?.any fun mark => combiningClass c ≤ combiningClass mark
      match if blocked then none else compose? b c with
      | some composed => composeFrom done (some composed) marks rest
      | none =>
        if isBase then composeFrom (marks ++ b :: done) (some c) [] rest
        else composeFrom done (some b) (c :: marks) rest

/-- The composed form of a text. -/
def normalize (text : List Char) : List Char :=
  composeFrom [] none [] (sortMarks (text.flatMap (decompose 4)))

end HealthPanel.Url.Domain
