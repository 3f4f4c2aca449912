import HealthPanel.Url.Domain.Characters
import HealthPanel.Url.Domain.Directions
import HealthPanel.Url.Domain.Joining
import HealthPanel.Url.Domain.Normal

/-!
# Labels of domain names

What a label may look like once its characters have been replaced: which characters it holds,
how it starts, where invisible joiners stand, and, in a name with letters written from right to
left, how directions mix.
-/

namespace HealthPanel.Url.Domain

/-! ## Characters -/

/-- The replacement of a character by a run. -/
def replacedByRun? (n : Nat) : Option Char :=
  (runs.find? fun run => run.first ≤ n ∧ n ≤ run.last ∧ (n - run.first) % run.step = 0).map
    fun run => Char.ofNat (n + run.offset : Int).toNat

/-- The replacement of a character by a column. -/
def replacedByColumn? (n : Nat) : Option Char :=
  columns.findSome? fun (first, texts) =>
    if first ≤ n then texts.toList[n - first]? else none

/-- What a character of a name becomes; nothing if no name may hold it. -/
def replace? (c : Char) : Option (List Char) :=
  if disallowed.contains c then none
  else if ignored.contains c then some []
  else
    match phrases.lookup c.toNat with
    | some text => some text.toList
    | none =>
      match replacedByRun? c.toNat, replacedByColumn? c.toNat with
      | some replacement, _ => some [replacement]
      | none, some replacement => some [replacement]
      | none, none => some [c]

/-- The ASCII characters that no name may hold. -/
def isForbidden (c : Char) : Bool :=
  c.toNat ≤ 0x20 || c.toNat = 0x7F || c ∈ "#/:<>?@[\\]^|%".toList

/-- Whether a character stands for itself in a name. -/
def standsForItself (c : Char) : Bool :=
  replace? c = some [c] && !isForbidden c

/-! ## Joiners -/

/-- The combining class of a virama. -/
def viramaClass : Nat := 9

/-- Whether a letter before joins a letter after, characters that letters join across left
out. `before` is reversed. -/
def joinsAcross (before after : List Char) : Bool :=
  let first := before.dropWhile transparent.contains
  let second := after.dropWhile transparent.contains
  (first.head?.any fun c => joiningLeft.contains c || joiningBoth.contains c) &&
    (second.head?.any fun c => joiningRight.contains c || joiningBoth.contains c)

/-- Whether the joiners of a text stand where they may. `before` is what lies before the text,
reversed. -/
def joinersStand (before : List Char) : List Char → Bool
  | [] => true
  | c :: rest =>
    let afterVirama := before.head?.any fun b => combiningClass b = viramaClass
    (if c.toNat = 0x200C then afterVirama || joinsAcross before rest
      else if c.toNat = 0x200D then afterVirama
      else true) && joinersStand (c :: before) rest

/-- Whether a label of replaced characters may stand in a name. -/
def isLabel (label : List Char) : Bool :=
  !label.head?.any marks.contains && label.all standsForItself && joinersStand [] label

/-! ## Directions -/

/-- The direction of a character of a name. -/
inductive Direction
  | left
  | right
  | arabicNumber
  | europeanNumber
  /-- Characters that may stand in either direction. -/
  | neutral
  | mark
  deriving DecidableEq

/-- The direction of a character. -/
def directionOf (c : Char) : Direction :=
  if rightToLeft.contains c || arabicLetters.contains c then .right
  else if arabicNumbers.contains c then .arabicNumber
  else if europeanNumbers.contains c then .europeanNumber
  else if nonspacingMarks.contains c then .mark
  else if europeanSeparators.contains c || commonSeparators.contains c
      || europeanTerminators.contains c || neutrals.contains c || boundaryNeutrals.contains c then
    .neutral
  else .left

/-- The direction in which a label ends, marks left out. -/
def finalDirection? (directions : List Direction) : Option Direction :=
  (directions.reverse.dropWhile (· = .mark)).head?

/-- Whether the directions of a label mix as they may in a name with letters written from right
to left. -/
def mixes : List Direction → Bool
  | [] => true
  | .right :: rest =>
    let all := .right :: rest
    all.all (· ≠ .left) && finalDirection? all ∈ [some .right, some .europeanNumber,
      some .arabicNumber] && !(.europeanNumber ∈ all && .arabicNumber ∈ all)
  | .left :: rest =>
    let all := .left :: rest
    all.all (fun d => d ≠ .right ∧ d ≠ .arabicNumber) &&
      finalDirection? all ∈ [some .left, some .europeanNumber]
  | _ => false

/-- Whether a name with these labels may be written: labels that hold anything written from
right to left restrict all of them. -/
def directionsMix (labels : List (List Char)) : Bool :=
  let directions := labels.map (·.map directionOf)
  !(directions.any fun label => .right ∈ label || .arabicNumber ∈ label) || directions.all mixes

end HealthPanel.Url.Domain
