import HealthPanel.Proofs.Json.Blanks
import HealthPanel.Proofs.Json.Contents

/-!
# What the loops over items and members take

The loops are written over what is done with each item, and so is what is said about them. If the
reader of an item takes nothing but items, a loop takes nothing but items with commas between them
and the closing byte; if it takes every item, whatever comes next that does not go on with a
numeral, a loop takes every such sequence. Items go into the state one after another.
-/

namespace HealthPanel.Json

variable {σ α : Type} {push : σ → α → σ} {spells : α → List UInt8 → Prop} {items : List α}
  {state last : σ} {bytes front back rest s : List UInt8}

/-- Something that begins with a byte that is no blank and closes nothing. -/
def BeginsItem (bytes : List UInt8) : Prop :=
  ∃ b tail, bytes = b :: tail ∧ isBlank b = false ∧ b ≠ 0x5D ∧ b ≠ 0x7D

/-- Items with commas between them begin like an item. -/
theorem Separated.beginsItem (h : Separated spells items bytes)
    (begins : ∀ {item bytes}, spells item bytes → BeginsItem bytes) : BeginsItem bytes := by
  cases h with
  | last spelled => exact begins spelled
  | next spelled =>
    obtain ⟨b, tail, rfl, hb⟩ := begins spelled
    exact ⟨b, _, rfl, hb⟩

/-- There are no more items than bytes. -/
theorem Separated.length_le (h : Separated spells items bytes)
    (begins : ∀ {item bytes}, spells item bytes → BeginsItem bytes) :
    items.length ≤ bytes.length := by
  induction h with
  | last spelled =>
    obtain ⟨b, tail, rfl, -⟩ := begins spelled
    simp
  | next spelled isComma _ ih =>
    obtain ⟨b, tail, rfl, -⟩ := begins spelled
    simp
    omega

/-! ## Items -/

/-- What the reader of an item takes is an item, after any blanks, and it goes into the state. -/
def TakesOnly (item : σ → Reader σ) (push : σ → α → σ) (spells : α → List UInt8 → Prop) : Prop :=
  ∀ state s last rest, item state s = .ok (last, rest) →
    ∃ gap value bytes, IsGap gap ∧ spells value bytes ∧ last = push state value ∧
      s = gap ++ (bytes ++ rest)

/-- The reader of an item takes every item, whatever comes next that does not go on with a
numeral. -/
def TakesAll (item : σ → Reader σ) (push : σ → α → σ) (spells : α → List UInt8 → Prop) : Prop :=
  ∀ value bytes, spells value bytes → ∀ state rest, EndsNumeral rest →
    item state (bytes ++ rest) = .ok (push state value, rest)

variable {item : σ → Reader σ}

/-- The loop over items takes items with commas between them, up to the closing bracket. -/
theorem separated_of_readElements {bound : List UInt8} (only : TakesOnly item push spells)
    (h : readElements item bound state s = .ok (last, rest)) :
    ∃ front items bytes back, IsGap front ∧ Separated spells items bytes ∧ IsGap back ∧
      last = items.foldl push state ∧ s = front ++ (bytes ++ (back ++ 0x5D :: rest)) := by
  induction bound generalizing state s with
  | nil => cases h
  | cons first bound ih =>
    rw [readElements] at h
    split at h
    case h_1 => cases h
    case h_2 next afterItem hitem =>
      obtain ⟨front, value, bytes, isFront, spelled, rfl, rfl⟩ := only _ _ _ _ hitem
      split at h
      case h_1 => cases h
      case h_2 afterClose hpeek =>
        cases h
        obtain ⟨back, isBack, -, rfl⟩ := exists_gap_of_peek hpeek
        exact ⟨front, [value], bytes, back, isFront, .last spelled, isBack, rfl, rfl⟩
      case h_3 afterComma hpeek =>
        obtain ⟨gap, isGap, -, rfl⟩ := exists_gap_of_peek hpeek
        split at h
        case h_1 | h_2 => cases h
        case h_3 b afterGap _ hnext =>
          -- The comma takes the blanks that have been passed over to see that an item comes next.
          obtain ⟨later, isLater, -, rfl⟩ := exists_gap_of_peek hnext
          obtain ⟨skipped, items, others, back, isSkipped, separated, isBack, hlast, hothers⟩ :=
            ih h
          refine ⟨front, value :: items, bytes ++ ((gap ++ 0x2C :: (later ++ skipped)) ++ others),
            back, isFront, .next spelled ⟨gap, _, isGap, isLater.append isSkipped, rfl⟩ separated,
            isBack, hlast, ?_⟩
          simp [hothers]
      case h_4 => cases h

/-- The loop over items takes items with commas between them, whatever comes behind the closing
bracket. -/
theorem Separated.readElements_eq {bound : List UInt8} (h : Separated spells items bytes)
    (all : TakesAll item push spells)
    (begins : ∀ {item bytes}, spells item bytes → BeginsItem bytes) (isBack : IsGap back)
    (enough : items.length ≤ bound.length) :
    readElements item bound state (bytes ++ (back ++ 0x5D :: rest)) =
      .ok (items.foldl push state, rest) := by
  induction h generalizing bound state with
  | last spelled =>
    obtain _ | ⟨first, bound⟩ := bound
    · simp at enough
    · simp only [readElements, all _ _ spelled _ _ (isBack.endsNumeral_append (.inr (.inl rfl))),
        peek_append isBack (show isBlank 0x5D = false by decide), List.foldl_cons, List.foldl_nil]
  | @next value items bytes comma others spelled isComma separated ih =>
    obtain _ | ⟨first, bound⟩ := bound
    · simp at enough
    · obtain ⟨gap, later, isGap, isLater, rfl⟩ := isComma
      obtain ⟨b, tail, rfl, hblank, hclose, -⟩ := separated.beginsItem begins
      have hitem := all _ _ spelled state _
        (isGap.endsNumeral_append (s := later ++ b :: (tail ++ (back ++ 0x5D :: rest))) (.inl rfl))
      simp only [List.append_assoc, List.cons_append, readElements, hitem,
        peek_append isGap (show isBlank 0x2C = false by decide), peek_append isLater hblank]
      exact ih (Nat.le_of_succ_le_succ enough)

/-- A list that is taken holds items only. -/
theorem enclosed_of_readList (only : TakesOnly item push spells)
    (h : readList item state s = .ok (last, rest)) :
    ∃ items bytes, Enclosed 0x5D spells items bytes ∧ last = items.foldl push state ∧
      s = bytes ++ rest := by
  rw [readList] at h
  split at h
  case h_1 => cases h
  case h_2 hpeek =>
    cases h
    obtain ⟨gap, isGap, -, rfl⟩ := exists_gap_of_peek hpeek
    exact ⟨[], gap ++ [0x5D], .empty isGap, rfl, by simp⟩
  case h_3 hpeek =>
    obtain ⟨gap, isGap, -, rfl⟩ := exists_gap_of_peek hpeek
    obtain ⟨front, items, bytes, back, isFront, separated, isBack, hlast, hs⟩ :=
      separated_of_readElements only h
    refine ⟨items, (gap ++ front) ++ (bytes ++ (back ++ [0x5D])),
      .items (isGap.append isFront) separated isBack, hlast, ?_⟩
    simp [hs]

/-- Every list of items is taken. -/
theorem Enclosed.readList_eq (h : Enclosed 0x5D spells items bytes)
    (all : TakesAll item push spells)
    (begins : ∀ {item bytes}, spells item bytes → BeginsItem bytes) :
    readList item state (bytes ++ rest) = .ok (items.foldl push state, rest) := by
  cases h with
  | empty isGap =>
    simp only [List.append_assoc, List.cons_append, List.nil_append, readList,
      peek_append isGap (show isBlank 0x5D = false by decide), List.foldl_nil]
  | @items items front bytes back isFront separated isBack =>
    have hlength := separated.length_le begins
    obtain ⟨b, tail, rfl, hblank, hclose, -⟩ := separated.beginsItem begins
    simp only [List.append_assoc, List.cons_append, List.nil_append, readList,
      peek_append isFront hblank]
    refine separated.readElements_eq all begins isBack ?_
    simp only [List.length_cons, List.length_append] at hlength ⊢
    omega

/-! ## Members -/

variable {member : σ → String → Reader σ} {pushMember : String → σ → α → σ}
  {members : List (String × α)}

/-- A member begins like an item, with its key. -/
theorem SpellsMember.beginsItem {named : String × α} (h : SpellsMember spells named bytes) :
    BeginsItem bytes := by
  obtain ⟨key, content, ⟨inner, -, rfl⟩, -, rfl⟩ := h
  exact ⟨0x22, _, rfl, by decide, by decide, by decide⟩

/-- The loop over members takes members with commas between them, up to the closing brace. -/
theorem separated_of_readMembers {bound : List UInt8}
    (only : ∀ key, TakesOnly (fun state => member state key) (pushMember key)
      (SpellsContent spells))
    (h : readMembers member bound state s = .ok (last, rest)) :
    ∃ front members bytes back, IsGap front ∧ Separated (SpellsMember spells) members bytes ∧
      IsGap back ∧
      last = members.foldl (fun state named => pushMember named.1 state named.2) state ∧
      s = front ++ (bytes ++ (back ++ 0x7D :: rest)) := by
  induction bound generalizing state s with
  | nil => cases h
  | cons first bound ih =>
    rw [readMembers] at h
    split at h
    case h_1 | h_2 | h_4 => cases h
    case h_3 afterQuote hquote =>
      obtain ⟨front, isFront, -, rfl⟩ := exists_gap_of_peek hquote
      split at h
      case h_1 => cases h
      case h_2 key afterKey hkey =>
        obtain ⟨inner, hinner, rfl⟩ := spellsChars_of_readText hkey
        split at h
        case h_1 => cases h
        case h_2 next afterMember hmember =>
          -- Blanks before the colon may have been left to it or passed over before.
          obtain ⟨gap, value, content, isGap, ⟨colon, inside, ⟨before, after, isBefore, isAfter,
            rfl⟩, spelled, rfl⟩, rfl, rfl⟩ := only key _ _ _ _ hmember
          have hnamed : SpellsMember spells (key, value)
              ((0x22 :: (inner ++ [0x22])) ++ ((gap ++ before ++ 0x3A :: after) ++ inside)) :=
            ⟨_, _, ⟨inner, hinner, rfl⟩,
              ⟨_, inside, ⟨_, after, isGap.append isBefore, isAfter, rfl⟩, spelled, rfl⟩, rfl⟩
          split at h
          case h_1 | h_4 => cases h
          case h_2 afterClose hpeek =>
            cases h
            obtain ⟨back, isBack, -, rfl⟩ := exists_gap_of_peek hpeek
            exact ⟨front, [(key, value)], _, back, isFront, .last hnamed, isBack, rfl, by simp⟩
          case h_3 afterComma hpeek =>
            obtain ⟨back, isBack, -, rfl⟩ := exists_gap_of_peek hpeek
            obtain ⟨later, members, others, back', isLater, separated, isBack', hlast, rfl⟩ := ih h
            exact ⟨front, (key, value) :: members, _, back', isFront,
              .next hnamed ⟨back, later, isBack, isLater, rfl⟩ separated, isBack', hlast, by simp⟩

/-- The loop over members takes the first one and goes on with what comes next. -/
theorem SpellsMember.readMembers_eq {named : String × α} (h : SpellsMember spells named bytes)
    (all : ∀ key, TakesAll (fun state => member state key) (pushMember key)
      (SpellsContent spells))
    (isFront : IsGap front) (ends : EndsNumeral rest) (first : UInt8) (bound : List UInt8) :
    (peek .endOfObject rest = .ok (0x7D, s) →
      readMembers member (first :: bound) state (front ++ (bytes ++ rest)) =
        .ok (pushMember named.1 state named.2, s)) ∧
    (peek .endOfObject rest = .ok (0x2C, s) →
      readMembers member (first :: bound) state (front ++ (bytes ++ rest)) =
        readMembers member bound (pushMember named.1 state named.2) s) := by
  obtain ⟨key, content, ⟨inner, hinner, rfl⟩, hcontent, rfl⟩ := h
  have hmember := all named.1 _ _ hcontent state rest ends
  dsimp only at hmember
  constructor
  all_goals
    intro hpeek
    simp only [List.append_assoc, List.cons_append, List.nil_append, readMembers,
      peek_append isFront (show isBlank 0x22 = false by decide), readText_of_spellsChars hinner,
      hmember, hpeek]

/-- The loop over members takes members with commas between them, whatever comes behind the closing
brace. -/
theorem Separated.readMembers_eq {bound : List UInt8}
    (h : Separated (SpellsMember spells) members bytes)
    (all : ∀ key, TakesAll (fun state => member state key) (pushMember key)
      (SpellsContent spells))
    (isFront : IsGap front) (isBack : IsGap back) (enough : members.length ≤ bound.length) :
    readMembers member bound state (front ++ (bytes ++ (back ++ 0x7D :: rest))) =
      .ok (members.foldl (fun state named => pushMember named.1 state named.2) state, rest) := by
  induction h generalizing bound state front with
  | last spelled =>
    obtain _ | ⟨first, bound⟩ := bound
    · simp at enough
    · have ends : EndsNumeral (back ++ 0x7D :: rest) :=
        isBack.endsNumeral_append (.inr (.inr rfl))
      exact (spelled.readMembers_eq all isFront ends first bound).1 (peek_append isBack (by decide))
  | next spelled isComma _ ih =>
    obtain _ | ⟨first, bound⟩ := bound
    · simp at enough
    · obtain ⟨gap, later, isGap, isLater, rfl⟩ := isComma
      simp only [List.append_assoc, List.cons_append]
      rw [(spelled.readMembers_eq all isFront (isGap.endsNumeral_append (.inl rfl)) first bound).2
        (peek_append isGap (by decide))]
      exact ih isLater (Nat.le_of_succ_le_succ enough)

/-- An object that is taken holds members only. -/
theorem enclosed_of_readObject
    (only : ∀ key, TakesOnly (fun state => member state key) (pushMember key)
      (SpellsContent spells))
    (h : readObject member state s = .ok (last, rest)) :
    ∃ members bytes, Enclosed 0x7D (SpellsMember spells) members bytes ∧
      last = members.foldl (fun state named => pushMember named.1 state named.2) state ∧
      s = bytes ++ rest := by
  rw [readObject] at h
  split at h
  case h_1 => cases h
  case h_2 hpeek =>
    cases h
    obtain ⟨gap, isGap, -, rfl⟩ := exists_gap_of_peek hpeek
    exact ⟨[], gap ++ [0x7D], .empty isGap, rfl, by simp⟩
  case h_3 hpeek =>
    obtain ⟨gap, isGap, -, rfl⟩ := exists_gap_of_peek hpeek
    obtain ⟨front, members, bytes, back, isFront, separated, isBack, hlast, hs⟩ :=
      separated_of_readMembers only h
    refine ⟨members, (gap ++ front) ++ (bytes ++ (back ++ [0x7D])),
      .items (isGap.append isFront) separated isBack, hlast, ?_⟩
    simp [hs]

/-- Every object of members is taken. -/
theorem Enclosed.readObject_eq (h : Enclosed 0x7D (SpellsMember spells) members bytes)
    (all : ∀ key, TakesAll (fun state => member state key) (pushMember key)
      (SpellsContent spells)) :
    readObject member state (bytes ++ rest) =
      .ok (members.foldl (fun state named => pushMember named.1 state named.2) state, rest) := by
  cases h with
  | empty isGap =>
    simp only [List.append_assoc, List.cons_append, List.nil_append, readObject,
      peek_append isGap (show isBlank 0x7D = false by decide), List.foldl_nil]
  | @items members front bytes back isFront separated isBack =>
    have hlength := separated.length_le SpellsMember.beginsItem
    obtain ⟨b, tail, rfl, hblank, -, hclose⟩ := separated.beginsItem SpellsMember.beginsItem
    simp only [List.append_assoc, List.cons_append, List.nil_append, readObject,
      peek_append isFront hblank]
    refine separated.readMembers_eq all isGap_nil isBack ?_
    simp only [List.length_cons, List.length_append] at hlength ⊢
    omega

end HealthPanel.Json
