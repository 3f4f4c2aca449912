/-!
# Punycode

A label with characters outside ASCII is written as its ASCII characters, a hyphen, and the
places and values of the others as differences in a variable-length base of 36. Every loop runs
on its own measure: digits of a number, code points still to be placed, or letters still to
be read.
-/

namespace HealthPanel.Url.Punycode

/-- The letter of a digit: `a` to `z`, then `0` to `9`. -/
def digitChar (d : Nat) : Char :=
  if d < 26 then Char.ofNat (0x61 + d) else Char.ofNat (0x16 + d)

/-- The digit of a letter. -/
def digit? (c : Char) : Option Nat :=
  let n := c.toNat
  if 0x61 ≤ n ∧ n ≤ 0x7A then some (n - 0x61)
  else if 0x41 ≤ n ∧ n ≤ 0x5A then some (n - 0x41)
  else if 0x30 ≤ n ∧ n ≤ 0x39 then some (n - 0x16)
  else none

/-- The least value that is no final digit at a place. -/
def threshold (place bias : Nat) : Nat :=
  max 1 (min 26 (place - bias))

/-- A threshold is at least one. -/
theorem threshold_pos (place bias : Nat) : 1 ≤ threshold place bias := by
  simp only [threshold]; omega

/-- A threshold is at most 26. -/
theorem threshold_le (place bias : Nat) : threshold place bias ≤ 26 := by
  simp only [threshold]; omega

/-- Scales a difference down for the next bias. -/
def shrink (delta place : Nat) : Nat × Nat :=
  if 455 < delta then shrink (delta / 35) (place + 36) else (delta, place)
termination_by delta
decreasing_by omega

/-- The bias after a difference, with the number of code points placed so far. -/
def adapt (delta placed : Nat) (first : Bool) : Nat :=
  let halved := if first then delta / 700 else delta / 2
  let (rest, place) := shrink (halved + halved / placed) 0
  place + 36 * rest / (rest + 38)

/-! ## Writing -/

/-- The digits of a difference. -/
def writeDigits (bias place delta : Nat) : List Char :=
  let t := threshold place bias
  if delta < t then [digitChar delta]
  else digitChar (t + (delta - t) % (36 - t)) ::
    writeDigits bias (place + 36) ((delta - t) / (36 - t))
termination_by delta
decreasing_by
  have := threshold_pos place bias
  have := threshold_le place bias
  exact Nat.lt_of_le_of_lt (Nat.div_le_self _ _) (by omega)

/-- What is known while a label is written. -/
structure Progress where
  written : List Char
  delta : Nat
  bias : Nat
  placed : Nat

/-- Passes one character of the label while the code point `value` is placed. -/
def pass (value basic : Nat) (state : Progress) (c : Char) : Progress :=
  if c.toNat < value then { state with delta := state.delta + 1 }
  else if c.toNat = value then
    { written := state.written ++ writeDigits state.bias 36 state.delta
      delta := 0
      bias := adapt state.delta (state.placed + 1) (state.placed = basic)
      placed := state.placed + 1 }
  else state

/-- Places the given code points in turn, the least not yet passed being `next`. -/
def place (label : List Char) (basic : Nat) : List Nat → Nat → Progress → Progress
  | [], _, state => state
  | value :: rest, next, state =>
    let raised := { state with delta := state.delta + (value - next) * (state.placed + 1) }
    let passed := label.foldl (pass value basic) raised
    place label basic rest (value + 1) { passed with delta := passed.delta + 1 }

/-- Inserts a number into an increasing list, once. -/
def insertOnce (n : Nat) : List Nat → List Nat
  | [] => [n]
  | m :: rest => if n < m then n :: m :: rest else if n = m then m :: rest
    else m :: insertOnce n rest

/-- The Punycode of a label. -/
def encode (label : List Char) : List Char :=
  let basic := label.filter fun c => c.toNat < 0x80
  let others := (label.filter fun c => 0x80 ≤ c.toNat).foldr (fun c => insertOnce c.toNat) []
  let state := place label basic.length others 0x80 ⟨[], 0, 72, basic.length⟩
  basic ++ (if basic = [] then [] else ['-']) ++ state.written

/-! ## Reading -/

/-- The largest number that may arise while a label is read. -/
def limit : Nat := UInt32.size - 1

/-- Reads a difference of the given weight from a place on, added to `sum`. -/
def readDigits (bias : Nat) : List Char → Nat → Nat → Nat → Option (Nat × List Char)
  | [], _, _, _ => none
  | c :: rest, place, weight, sum => do
    let d ← digit? c
    let sum := sum + d * weight
    let t := threshold place bias
    if limit < sum then none
    else if d < t then return (sum, rest)
    else if limit < weight * (36 - t) then none
    else readDigits bias rest (place + 36) (weight * (36 - t)) sum

/-- Reading a difference takes at least one letter. -/
theorem length_lt_of_readDigits {bias : Nat} {letters : List Char} {place weight sum : Nat}
    {r : Nat × List Char} (h : readDigits bias letters place weight sum = some r) :
    r.2.length < letters.length := by
  induction letters generalizing place weight sum with
  | nil => simp [readDigits] at h
  | cons c rest ih =>
    rw [readDigits] at h
    cases hd : digit? c with
    | none => simp [hd] at h
    | some d =>
      simp only [hd, Option.bind_eq_bind, Option.bind_some] at h
      split at h
      · simp at h
      · split at h
        · have := Option.some.inj h; subst this; simp
        · split at h
          · simp at h
          · have := ih h; simp only [List.length_cons]; omega

/-- Reads the code points that the letters stand for and puts each in its place in the label.
`value` and `index` are those of the code point placed last. -/
def readPlaces (letters label : List Char) (value index bias : Nat) : Option (List Char) :=
  if letters = [] then some label
  else
    match _h : readDigits bias letters 36 1 index with
    | none => none
    | some (sum, rest) =>
      let placed := label.length + 1
      let next := value + sum / placed
      if next.isValidChar then
        readPlaces rest (label.insertIdx (sum % placed) (Char.ofNat next)) next (sum % placed + 1)
          (adapt (sum - index) placed (index = 0))
      else none
termination_by letters.length
decreasing_by exact length_lt_of_readDigits _h

/-- Splits the letters at the last hyphen. Without one, or with one in front alone, there are no
ASCII characters. -/
def splitBasic (letters : List Char) : List Char × List Char :=
  let others := (letters.reverse.takeWhile (· ≠ '-')).reverse
  let basic := letters.take (letters.length - others.length - 1)
  if basic = [] then ([], letters) else (basic, others)

/-- The label that the letters stand for. -/
def decode? (letters : List Char) : Option (List Char) :=
  let (basic, others) := splitBasic letters
  if basic.all (fun c => c.toNat < 0x80) then readPlaces others basic 0x80 0 72 else none

end HealthPanel.Url.Punycode
