import HealthPanel.Proofs.Json.Acceptance

/-!
# Documents without blanks

A document is a tree of tokens, and any blanks may stand between them. Tokens are as the grammar
has them and no more: numerals of any size, and texts in which halves of surrogate pairs may stand
alone. Lists and objects nest to any depth.
-/

namespace HealthPanel.Json

/-- A document without the blanks between its tokens. The keys of an object are tokens too. -/
inductive Tree
  | scalar (token : List UInt8)
  | list (items : List Tree)
  | object (members : List (List UInt8 × Tree))

/-! ## Tokens -/

/-- A byte that means itself between quotes, or an escape. -/
inductive IsPiece : List UInt8 → Prop
  | plain {b : UInt8} (control : 0x20 ≤ b.toNat) (quote : b ≠ 0x22) (backslash : b ≠ 0x5C) :
    IsPiece [b]
  | letter {letter b : UInt8} (short : shortEscape? letter = some b) : IsPiece [0x5C, letter]
  | number {p q r s : UInt8} {n : Nat} (digits : hexNumber? p q r s = some n) :
    IsPiece [0x5C, 0x75, p, q, r, s]

/-- What may stand between the quotes of a text. -/
def IsInner (bytes : List UInt8) : Prop :=
  ∃ pieces : List (List UInt8), (∀ piece ∈ pieces, IsPiece piece) ∧ bytes = pieces.flatten

/-- A text with its quotes. -/
def IsText (token : List UInt8) : Prop :=
  ∃ inner, IsInner inner ∧ token = 0x22 :: (inner ++ [0x22])

/-- A token that is a value. -/
inductive IsScalar : List UInt8 → Prop
  | null : IsScalar [0x6E, 0x75, 0x6C, 0x6C]
  | ofTrue : IsScalar [0x74, 0x72, 0x75, 0x65]
  | ofFalse : IsScalar [0x66, 0x61, 0x6C, 0x73, 0x65]
  | number {numeral : Numeral} {bytes : List UInt8} (spelled : SpellsNumeral numeral bytes) :
    IsScalar bytes
  | text {token : List UInt8} (isText : IsText token) : IsScalar token

/-! ## Trees -/

/-- The token of a key, a colon, and a value. -/
def RendersMember (renders : Tree → List UInt8 → Prop) (member : List UInt8 × Tree)
    (bytes : List UInt8) : Prop :=
  ∃ content, IsText member.1 ∧ SpellsContent renders member.2 content ∧ bytes = member.1 ++ content

/-- A token that is a value, as a tree. -/
inductive RendersScalar : Tree → List UInt8 → Prop
  | scalar {token : List UInt8} (isScalar : IsScalar token) : RendersScalar (.scalar token) token

/-- A list or an object of values that are rendered in some way. -/
inductive RendersContainer (renders : Tree → List UInt8 → Prop) : Tree → List UInt8 → Prop
  | list {items : List Tree} {bytes : List UInt8} (enclosed : Enclosed 0x5D renders items bytes) :
    RendersContainer renders (.list items) (0x5B :: bytes)
  | object {members : List (List UInt8 × Tree)} {bytes : List UInt8}
    (enclosed : Enclosed 0x7D (RendersMember renders) members bytes) :
    RendersContainer renders (.object members) (0x7B :: bytes)

/-- A tree whose lists and objects nest at most so deep, with any blanks between its tokens. -/
def Renders : Nat → Tree → List UInt8 → Prop
  | 0, tree, bytes => RendersScalar tree bytes
  | depth + 1, tree, bytes =>
    RendersScalar tree bytes ∨ RendersContainer (Renders depth) tree bytes

/-- A tree of any depth, with any blanks around it too. -/
def Tree.IsRenderedBy (tree : Tree) (bytes : List UInt8) : Prop :=
  ∃ depth front inner back, IsGap front ∧ Renders depth tree inner ∧ IsGap back ∧
    bytes = front ++ (inner ++ back)

variable {α : Type} {spells : α → List UInt8 → Prop} {items : List α} {close : UInt8}
  {depth n : Nat} {tree : Tree} {bytes : List UInt8}

/-! ## First bytes -/

/-- A token that is a value begins no list and no object. -/
theorem IsScalar.exists_head (h : IsScalar bytes) :
    ∃ b tail, bytes = b :: tail ∧ isBlank b = false ∧ b ≠ 0x5B ∧ b ≠ 0x7B ∧ b ≠ 0x5D ∧
      b ≠ 0x7D := by
  cases h with
  | number spelled =>
    obtain ⟨b, tail, rfl, hb⟩ := spelled.exists_head
    obtain ⟨hblank, -, -, -, -, hothers⟩ := not_other_of_sign_or_digit hb
    exact ⟨b, tail, rfl, hblank, hothers⟩
  | text isText =>
    obtain ⟨inner, -, rfl⟩ := isText
    exact ⟨0x22, _, rfl, by decide⟩
  | _ => exact ⟨_, _, rfl, by decide⟩

/-- A token that begins with a quote is a text. -/
theorem IsScalar.isText {tail : List UInt8} (h : IsScalar (0x22 :: tail)) :
    IsText (0x22 :: tail) := by
  generalize hbytes : 0x22 :: tail = bytes at h
  cases h with
  | text isText => exact isText
  | number spelled =>
    obtain ⟨b, others, rfl, hb⟩ := spelled.exists_head
    obtain ⟨rfl, -⟩ := List.cons.inj hbytes
    exact absurd hb (by decide)
  | _ => exact absurd (List.cons.inj hbytes).1 (by decide)

/-- A token that begins like a numeral is one. -/
theorem IsScalar.exists_numeral {b : UInt8} {tail : List UInt8} (h : IsScalar (b :: tail))
    (hb : b = 0x2D ∨ isDigit b) : ∃ numeral, SpellsNumeral numeral (b :: tail) := by
  obtain ⟨-, hnull, htrue, hfalse, hquote, -⟩ := not_other_of_sign_or_digit hb
  generalize hbytes : b :: tail = bytes at h
  cases h with
  | null => exact absurd (List.cons.inj hbytes).1 hnull
  | ofTrue => exact absurd (List.cons.inj hbytes).1 htrue
  | ofFalse => exact absurd (List.cons.inj hbytes).1 hfalse
  | @number numeral _ spelled => exact ⟨numeral, spelled⟩
  | text isText =>
    obtain ⟨inner, -, rfl⟩ := isText
    exact absurd (List.cons.inj hbytes).1 hquote

/-- A token that begins like null is null. -/
theorem IsScalar.isNull {tail : List UInt8} (h : IsScalar (0x6E :: tail)) :
    tail = [0x75, 0x6C, 0x6C] := by
  generalize hbytes : 0x6E :: tail = bytes at h
  cases h with
  | null => exact (List.cons.inj hbytes).2
  | number spelled =>
    obtain ⟨b, others, rfl, hb⟩ := spelled.exists_head
    obtain ⟨rfl, -⟩ := List.cons.inj hbytes
    exact absurd hb (by decide)
  | text isText =>
    obtain ⟨inner, -, rfl⟩ := isText
    exact absurd (List.cons.inj hbytes).1 (by decide)
  | _ => exact absurd (List.cons.inj hbytes).1 (by decide)

/-- What is rendered is a token or a container of what is rendered one level further in. -/
theorem Renders.shape (h : Renders depth tree bytes) :
    (IsScalar bytes ∧ tree = .scalar bytes) ∨
      ∃ less, depth = less + 1 ∧ RendersContainer (Renders less) tree bytes := by
  have hscalar (h : RendersScalar tree bytes) : IsScalar bytes ∧ tree = .scalar bytes := by
    cases h with
    | scalar isScalar => exact ⟨isScalar, rfl⟩
  cases depth with
  | zero => exact .inl (hscalar h)
  | succ depth => exact h.imp hscalar fun container => ⟨depth, rfl, container⟩

/-- What renders a tree begins like an item. -/
theorem Renders.beginsItem (h : Renders depth tree bytes) : BeginsItem bytes := by
  rcases h.shape with ⟨isScalar, -⟩ | ⟨less, -, container⟩
  · obtain ⟨b, tail, hbytes, hblank, -, -, hclosing⟩ := isScalar.exists_head
    exact ⟨b, tail, hbytes, hblank, hclosing⟩
  · cases container <;> exact ⟨_, _, rfl, by decide⟩

/-- What renders a member begins like an item, with its key. -/
theorem RendersMember.beginsItem {renders : Tree → List UInt8 → Prop} {member : List UInt8 × Tree}
    (h : RendersMember renders member bytes) : BeginsItem bytes := by
  obtain ⟨content, ⟨inner, -, htoken⟩, -, rfl⟩ := h
  exact ⟨0x22, _, by rw [htoken]; rfl, by decide⟩

/-! ## Lengths -/

/-- No item is longer than all of them. -/
theorem Separated.within (h : Separated spells items bytes) (le : bytes.length ≤ n) :
    Separated (fun item bytes => spells item bytes ∧ bytes.length ≤ n) items bytes := by
  induction h with
  | last spelled => exact .last ⟨spelled, le⟩
  | next spelled isComma _ ih =>
    rw [List.length_append, List.length_append] at le
    exact .next ⟨spelled, by omega⟩ isComma (ih (by omega))

/-- No item of a list is longer than the list. -/
theorem Enclosed.within (h : Enclosed close spells items bytes) :
    Enclosed close (fun item inner => spells item inner ∧ inner.length ≤ bytes.length) items
      bytes := by
  cases h with
  | empty isGap => exact .empty isGap
  | items isFront separated isBack =>
    refine .items isFront (separated.within ?_) isBack
    simp only [List.length_append]
    omega

/-- No value is longer than its member. -/
theorem RendersMember.within {renders : Tree → List UInt8 → Prop} {member : List UInt8 × Tree}
    (h : RendersMember renders member bytes) (le : bytes.length ≤ n) :
    RendersMember (fun tree inner => renders tree inner ∧ inner.length ≤ n) member bytes := by
  obtain ⟨content, isText, ⟨colon, inside, isColon, rendered, rfl⟩, rfl⟩ := h
  rw [List.length_append, List.length_append] at le
  exact ⟨_, isText, ⟨colon, inside, isColon, ⟨rendered, by omega⟩, rfl⟩, rfl⟩

end HealthPanel.Json
