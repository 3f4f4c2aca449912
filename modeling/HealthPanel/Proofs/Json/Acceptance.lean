import HealthPanel.Proofs.Json.Containers
import HealthPanel.Proofs.Json.Members

/-!
# What the reader accepts

The reader takes exactly the documents of the grammar whose numerals it can read, each as the value
that it spells. Both directions go by induction on the nesting that is still allowed: what holds of
the values one level further in holds of the lists and objects that hold them.
-/

namespace HealthPanel.Json

variable {means : Numeral → Number → Prop} {depth : Nat} {value : Value} {b : UInt8}
  {bytes gap rest s : List UInt8}

/-! ## Values -/

/-- What is made of a result succeeds exactly if the result does. -/
theorem map_eq_ok_iff {ε α β : Type} {x : Except ε α} {f : α → β} {y : β} :
    x.map f = .ok y ↔ ∃ a, x = .ok a ∧ f a = y := by
  cases x <;> simp [Except.map]

/-- What spells a scalar spells a value, at any depth. -/
theorem SpellsScalar.spellsValue (h : SpellsScalar means value bytes) :
    SpellsValue means depth value bytes := by
  cases depth with
  | zero => exact h
  | succ depth => exact .inl h

/-- The word behind a known first letter is taken. -/
theorem eq_append_of_readWord {word : List UInt8} {u : Unit} (h : readWord word s = .ok (u, rest)) :
    s = word ++ rest := by
  induction word generalizing s with
  | nil =>
    cases h
    rfl
  | cons w word ih =>
    cases s with
    | nil => cases h
    | cons b s =>
      rw [readWord] at h
      split at h
      case isTrue hb => rw [hb, ih h, List.cons_append]
      case isFalse => cases h

/-- What a reader takes for a number is a numeral that means it. -/
theorem spellsScalar_of_readNumber {number : Number} (h : readNumber s = .ok (number, rest)) :
    ∃ bytes, SpellsScalar Numeral.Means (.number number) bytes ∧ s = bytes ++ rest := by
  unfold readNumber at h
  split at h
  case h_1 => cases h
  case h_2 numeral left hnumeral =>
    split at h
    case h_1 hnumber =>
      cases h
      obtain ⟨bytes, spelled, rfl⟩ := spellsNumeral_of_readNumeral hnumeral
      exact ⟨bytes, .number spelled hnumber, rfl⟩
    case h_2 => cases h

/-- What is taken for a value at a depth is one. -/
def ReadsOnly (depth : Nat) : Prop :=
  ∀ s value rest, readValue depth s = .ok (value, rest) →
    ∃ gap bytes, IsGap gap ∧ SpellsValue Numeral.Means depth value bytes ∧
      s = gap ++ (bytes ++ rest)

/-- Reads an item of a list, after those that are gathered in reverse. -/
def readItem (depth : Nat) (done : List Value) : Reader (List Value) := fun s =>
  (readValue depth s).map fun r => (r.1 :: done, r.2)

/-- Reads what stands behind the key of a member, and sets it in the members before it. -/
def readContent (depth : Nat) (members : List (String × Value)) (key : String) :
    Reader (List (String × Value)) := fun s =>
  match readColon s with
  | .error fault => .error fault
  | .ok (_, s) => (readValue depth s).map fun r => (insertMember key r.1 members, r.2)

/-- An item is only taken off bytes that spell its value. -/
theorem ReadsOnly.takesOnly_item (only : ReadsOnly depth) :
    TakesOnly (readItem depth) (fun done value => value :: done)
      (SpellsValue Numeral.Means depth) := by
  intro done s last rest h
  obtain ⟨⟨value, left⟩, htaken, ⟨⟩⟩ := map_eq_ok_iff.mp h
  obtain ⟨gap, bytes, isGap, spelled, rfl⟩ := only _ _ _ htaken
  exact ⟨gap, value, bytes, isGap, spelled, rfl, rfl⟩

/-- A colon is only read behind blanks. -/
theorem exists_gap_of_readColon {u : Unit} (h : readColon s = .ok (u, rest)) :
    ∃ gap, IsGap gap ∧ s = gap ++ 0x3A :: rest := by
  unfold readColon at h
  split at h
  case h_2 hpeek =>
    cases h
    obtain ⟨gap, isGap, -, rfl⟩ := exists_gap_of_peek hpeek
    exact ⟨gap, isGap, rfl⟩
  all_goals cases h

/-- A member is only taken off bytes that spell its contents. -/
theorem ReadsOnly.takesOnly_content (only : ReadsOnly depth) (key : String) :
    TakesOnly (fun members => readContent depth members key)
      (fun members value => insertMember key value members)
      (SpellsContent (SpellsValue Numeral.Means depth)) := by
  intro members s last rest h
  dsimp only [readContent] at h
  split at h
  case h_1 => cases h
  case h_2 hcolon =>
    obtain ⟨before, isBefore, rfl⟩ := exists_gap_of_readColon hcolon
    obtain ⟨⟨value, left⟩, htaken, ⟨⟩⟩ := map_eq_ok_iff.mp h
    obtain ⟨gap, bytes, isGap, spelled, rfl⟩ := only _ _ _ htaken
    exact ⟨[], value, before ++ 0x3A :: gap ++ bytes, isGap_nil,
      ⟨_, bytes, ⟨before, gap, isBefore, isGap, rfl⟩, spelled, rfl⟩, rfl, by simp⟩

/-- A value that one word spells is taken with this word. -/
theorem exists_value_of_readWord {known : Value} {word : List UInt8}
    (hpeek : peek .endOfValue s = .ok (b, bytes))
    (spelled : SpellsScalar Numeral.Means known (b :: word))
    (h : (readWord word bytes).map (fun r => (known, r.2)) = .ok (value, rest)) :
    ∃ gap bytes, IsGap gap ∧ SpellsValue Numeral.Means depth value bytes ∧
      s = gap ++ (bytes ++ rest) := by
  obtain ⟨gap, isGap, -, rfl⟩ := exists_gap_of_peek hpeek
  obtain ⟨taken, htaken, ⟨⟩⟩ := map_eq_ok_iff.mp h
  rw [eq_append_of_readWord htaken]
  exact ⟨gap, b :: word, isGap, spelled.spellsValue, rfl⟩

/-- What is taken for a value is one, if this holds of what lists and objects hold. -/
theorem readsOnly_of_inside (inside : ∀ less, depth = less + 1 → ReadsOnly less) :
    ReadsOnly depth := by
  intro s value rest h
  unfold readValue at h
  split at h
  case h_1 => cases h
  case h_2 hpeek => exact exists_value_of_readWord hpeek .null h
  case h_3 hpeek => exact exists_value_of_readWord hpeek .ofTrue h
  case h_4 hpeek => exact exists_value_of_readWord hpeek .ofFalse h
  case h_5 hpeek =>
    obtain ⟨gap, isGap, -, rfl⟩ := exists_gap_of_peek hpeek
    obtain ⟨taken, htaken, ⟨⟩⟩ := map_eq_ok_iff.mp h
    obtain ⟨inner, hinner, rfl⟩ := spellsChars_of_readText htaken
    exact ⟨gap, 0x22 :: (inner ++ [0x22]), isGap,
      (SpellsScalar.text ⟨inner, hinner, rfl⟩).spellsValue, by simp⟩
  case h_6 hpeek =>
    obtain ⟨gap, isGap, -, rfl⟩ := exists_gap_of_peek hpeek
    cases depth with
    | zero => cases h
    | succ depth =>
      -- The items are gathered in reverse.
      obtain ⟨⟨done, left⟩, htaken, ⟨⟩⟩ := map_eq_ok_iff.mp h
      obtain ⟨items, bytes, enclosed, hdone, rfl⟩ :=
        enclosed_of_readList (inside depth rfl).takesOnly_item htaken
      have hitems : done.reverse = items := by simp [hdone]
      exact ⟨gap, 0x5B :: bytes, isGap, .inr (hitems ▸ .list enclosed), rfl⟩
  case h_7 hpeek =>
    obtain ⟨gap, isGap, -, rfl⟩ := exists_gap_of_peek hpeek
    cases depth with
    | zero => cases h
    | succ depth =>
      obtain ⟨⟨kept, left⟩, htaken, ⟨⟩⟩ := map_eq_ok_iff.mp h
      obtain ⟨members, bytes, enclosed, rfl, rfl⟩ :=
        enclosed_of_readObject (inside depth rfl).takesOnly_content htaken
      exact ⟨gap, 0x7B :: bytes, isGap, .inr (.object enclosed (keeps_foldl members)), rfl⟩
  case h_8 b s _ _ _ _ _ _ hpeek =>
    obtain ⟨gap, isGap, -, rfl⟩ := exists_gap_of_peek hpeek
    split at h
    case isTrue =>
      obtain ⟨taken, htaken, ⟨⟩⟩ := map_eq_ok_iff.mp h
      obtain ⟨bytes, hscalar, hbytes⟩ := spellsScalar_of_readNumber htaken
      exact ⟨gap, bytes, isGap, hscalar.spellsValue, by rw [hbytes]⟩
    case isFalse => cases h

/-- Values are read at every depth, and only values. -/
theorem readsOnly (depth : Nat) : ReadsOnly depth := by
  induction depth with
  | zero => exact readsOnly_of_inside fun _ h => nomatch h
  | succ depth ih => exact readsOnly_of_inside fun _ h => Nat.succ.inj h ▸ ih

/-- A numeral begins with its sign or a digit. -/
theorem SpellsNumeral.exists_head {numeral : Numeral} (h : SpellsNumeral numeral bytes) :
    ∃ b tail, bytes = b :: tail ∧ (b = 0x2D ∨ isDigit b) := by
  obtain ⟨whole, fraction, exponent, ⟨⟨nonempty, areDigits, -⟩, -⟩, -, -, rfl⟩ := h
  obtain ⟨b, tail, rfl⟩ := List.exists_cons_of_ne_nil nonempty
  cases numeral.negative with
  | true => exact ⟨0x2D, _, rfl, .inl rfl⟩
  | false => exact ⟨b, _, rfl, .inr (areDigits b List.mem_cons_self)⟩

/-- The first byte of a numeral begins no other value, and is no blank. -/
theorem not_other_of_sign_or_digit (h : b = 0x2D ∨ isDigit b) :
    isBlank b = false ∧ b ≠ 0x6E ∧ b ≠ 0x74 ∧ b ≠ 0x66 ∧ b ≠ 0x22 ∧ b ≠ 0x5B ∧ b ≠ 0x7B ∧
      b ≠ 0x5D ∧ b ≠ 0x7D := by
  have hbyte : b.toNat = 0x2D ∨ 0x30 ≤ b.toNat ∧ b.toNat ≤ 0x39 := by
    rcases h with rfl | hdigit
    · exact .inl rfl
    · simp only [isDigit, Bool.and_eq_true, decide_eq_true_eq, UInt8.le_iff_toNat_le,
        UInt8.reduceToNat] at hdigit
      exact .inr hdigit
  simp only [isBlank, Bool.or_eq_false_iff, decide_eq_false_iff_not, ← UInt8.toNat_inj, ne_eq,
    UInt8.reduceToNat]
  omega

/-- What spells a scalar begins like an item. -/
theorem SpellsScalar.beginsItem (h : SpellsScalar means value bytes) : BeginsItem bytes := by
  cases h with
  | number spelled =>
    obtain ⟨b, tail, rfl, hb⟩ := spelled.exists_head
    obtain ⟨hblank, -, -, -, -, -, -, hbracket, hbrace⟩ := not_other_of_sign_or_digit hb
    exact ⟨b, tail, rfl, hblank, hbracket, hbrace⟩
  | text spelled =>
    obtain ⟨inner, -, rfl⟩ := spelled
    exact ⟨0x22, _, rfl, by decide⟩
  | _ => exact ⟨_, _, rfl, by decide⟩

/-- What spells a value begins like an item. -/
theorem SpellsValue.beginsItem (h : SpellsValue means depth value bytes) : BeginsItem bytes := by
  cases depth with
  | zero => exact SpellsScalar.beginsItem h
  | succ depth =>
    rcases h with scalar | container
    · exact scalar.beginsItem
    · cases container <;> exact ⟨_, _, rfl, by decide⟩

/-- Only a numeral may go on in what comes behind it. -/
def EndsBefore (value : Value) (rest : List UInt8) : Prop :=
  (∃ number, value = .number number) → EndsNumeral rest

/-- A value that holds no other is read as it is spelled. -/
theorem SpellsScalar.readValue_eq (h : SpellsScalar Numeral.Means value bytes) (isGap : IsGap gap)
    (ends : EndsBefore value rest) :
    readValue depth (gap ++ (bytes ++ rest)) = .ok (value, rest) := by
  unfold readValue
  cases h with
  | null =>
    simp only [List.cons_append, peek_append isGap (show isBlank 0x6E = false by decide)]
    rfl
  | ofTrue =>
    simp only [List.cons_append, peek_append isGap (show isBlank 0x74 = false by decide)]
    rfl
  | ofFalse =>
    simp only [List.cons_append, peek_append isGap (show isBlank 0x66 = false by decide)]
    rfl
  | @number numeral number bytes spelled meant =>
    obtain ⟨b, tail, rfl, hb⟩ := spelled.exists_head
    obtain ⟨hblank, hnull, htrue, hfalse, hquote, hlist, hobject, -, -⟩ :=
      not_other_of_sign_or_digit hb
    have hnumber : readNumber (b :: tail ++ rest) = .ok (number, rest) := by
      rw [Numeral.Means] at meant
      simp only [readNumber, spelled.readNumeral_eq (ends ⟨number, rfl⟩), meant]
    rw [List.cons_append] at hnumber
    simp only [List.cons_append, peek_append isGap hblank, if_pos hb, hnumber]
    rfl
  | text spelled =>
    obtain ⟨inner, hinner, rfl⟩ := spelled
    simp only [List.cons_append, List.append_assoc, List.nil_append,
      peek_append isGap (show isBlank 0x22 = false by decide), readText_of_spellsChars hinner]
    rfl

/-- Every value of a depth is read as it is spelled, after any blanks. -/
def ReadsAll (depth : Nat) : Prop :=
  ∀ value bytes, SpellsValue Numeral.Means depth value bytes → ∀ gap rest, IsGap gap →
    EndsBefore value rest → readValue depth (gap ++ (bytes ++ rest)) = .ok (value, rest)

/-- An item is taken off all bytes that spell its value. -/
theorem ReadsAll.takesAll_item (all : ReadsAll depth) :
    TakesAll (readItem depth) (fun done value => value :: done)
      (SpellsValue Numeral.Means depth) := by
  intro value bytes spelled done rest ends
  have hread := all value bytes spelled [] rest isGap_nil fun _ => ends
  rw [List.nil_append] at hread
  simp only [readItem, hread, Except.map]

/-- A member is taken off all bytes that spell its contents. -/
theorem ReadsAll.takesAll_content (all : ReadsAll depth) (key : String) :
    TakesAll (fun members => readContent depth members key)
      (fun members value => insertMember key value members)
      (SpellsContent (SpellsValue Numeral.Means depth)) := by
  rintro value _ ⟨_, inside, ⟨before, gap, isBefore, isGap, rfl⟩, spelled, rfl⟩ members rest ends
  have hread := all value inside spelled gap rest isGap fun _ => ends
  simp only [List.append_assoc, List.cons_append, readContent, readColon_append isBefore, hread,
    Except.map]

/-- A list or an object is read if what it holds is. -/
theorem SpellsContainer.readValue_eq
    (h : SpellsContainer (SpellsValue Numeral.Means depth) value bytes) (all : ReadsAll depth)
    (isGap : IsGap gap) :
    readValue (depth + 1) (gap ++ (bytes ++ rest)) = .ok (value, rest) := by
  rw [readValue]
  cases h with
  | @list items bytes enclosed =>
    have hlist : readList (readItem depth) [] (bytes ++ rest) = .ok (items.reverse, rest) := by
      rw [enclosed.readList_eq all.takesAll_item SpellsValue.beginsItem]
      simp
    simp only [List.cons_append, peek_append isGap (show isBlank 0x5B = false by decide)]
    refine (congrArg (Except.map fun r => (Value.list r.1.reverse, r.2)) hlist).trans ?_
    rw [Except.map, List.reverse_reverse]
  | @object members kept bytes enclosed keeps =>
    have hobject : readObject (readContent depth) [] (bytes ++ rest) = .ok (kept, rest) := by
      rw [enclosed.readObject_eq all.takesAll_content, (keeps_foldl members).unique keeps]
    simp only [List.cons_append, peek_append isGap (show isBlank 0x7B = false by decide)]
    exact congrArg (Except.map fun r => (Value.object r.1, r.2)) hobject

/-- At every depth all that spells a value is read as it. -/
theorem readsAll (depth : Nat) : ReadsAll depth := by
  induction depth with
  | zero =>
    intro value bytes spelled gap rest isGap ends
    exact SpellsScalar.readValue_eq spelled isGap ends
  | succ depth ih =>
    intro value bytes spelled gap rest isGap ends
    rcases spelled with scalar | container
    · exact scalar.readValue_eq isGap ends
    · exact container.readValue_eq ih isGap

/-! ## Documents -/

/-- The end is only found behind blanks. -/
theorem isGap_of_readEnd {last : Unit × List UInt8} (h : readEnd s = .ok last) : IsGap s := by
  rw [readEnd] at h
  split at h
  case h_1 hskip => exact List.dropWhile_eq_nil_iff.mp hskip
  case h_2 => cases h

/-- A document is read if it is spelled, as the value that it spells. -/
theorem Value.ofBytes_eq_ok_iff :
    Value.ofBytes bytes = .ok value ↔ SpellsDocument Numeral.Means value bytes := by
  rw [Value.ofBytes, readAll]
  constructor
  · intro h
    split at h
    case h_1 => cases h
    case h_2 taken rest hread =>
      split at h
      case h_1 => cases h
      case h_2 hend =>
        cases h
        obtain ⟨gap, inner, isGap, spelled, rfl⟩ := readsOnly maxDepth _ _ _ hread
        exact ⟨gap, inner, rest, isGap, spelled, isGap_of_readEnd hend, rfl⟩
  · intro h
    obtain ⟨front, inner, back, isFront, spelled, isBack, rfl⟩ := h
    have hread := readsAll maxDepth value inner spelled front back isFront
      fun _ => isBack.endsNumeral
    simp only [hread, isBack.readEnd_eq]

end HealthPanel.Json
