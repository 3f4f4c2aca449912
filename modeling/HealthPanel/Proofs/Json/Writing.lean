import HealthPanel.Proofs.Json.Acceptance
import HealthPanel.Proofs.Json.Natural

/-!
# What the writer spells

A document without doubles is spelled by what the writer writes, at the depth it was read at: the
texts by their escapes, the integers by their digits, and the members of an object in the order in
which they are kept. So what is written is read back, and two such documents agree exactly if they
are written alike.
-/

namespace HealthPanel.Json

open HealthPanel.Text (digitByte encode_toString)

variable {α : Type} {spells : α → List UInt8 → Prop} {items : List α} {item : α}
  {close : UInt8} {depth : Nat} {value : Value} {bytes : List UInt8}

/-! ## Documents without doubles -/

/-- A document in which every number, however deep, is an exact integer. -/
inductive Value.IsExact : Value → Prop
  | null : IsExact .null
  | bool (b : Bool) : IsExact (.bool b)
  | integer (n : Int) : IsExact (.number (.integer n))
  | text (text : String) : IsExact (.text text)
  | list {items : List Value} (all : ∀ item ∈ items, IsExact item) : IsExact (.list items)
  | object {members : List (String × Value)} (all : ∀ member ∈ members, IsExact member.2) :
    IsExact (.object members)

/-- Lists agree exactly if they are equal, if this holds of their items. -/
theorem Value.itemsAgree_iff {xs : List Value}
    (all : ∀ x ∈ xs, ∀ y, x.agrees y = true ↔ x = y) (ys : List Value) :
    itemsAgree xs ys = true ↔ xs = ys := by
  induction xs generalizing ys with
  | nil => cases ys <;> simp [itemsAgree]
  | cons x xs ih =>
    obtain ⟨hx, hxs⟩ := List.forall_mem_cons.mp all
    cases ys with
    | nil => simp [itemsAgree]
    | cons y ys => simp [itemsAgree, hx, ih hxs]

/-- Objects agree exactly if they are equal, if this holds of their values. -/
theorem Value.membersAgree_iff {xs : List (String × Value)}
    (all : ∀ x ∈ xs, ∀ y, x.2.agrees y = true ↔ x.2 = y) (ys : List (String × Value)) :
    membersAgree xs ys = true ↔ xs = ys := by
  induction xs generalizing ys with
  | nil => cases ys <;> simp [membersAgree]
  | cons x xs ih =>
    obtain ⟨hx, hxs⟩ := List.forall_mem_cons.mp all
    cases ys with
    | nil => simp [membersAgree]
    | cons y ys => simp [membersAgree, hx, ih hxs, Prod.ext_iff]

/-- Without doubles documents agree only if they are the same. -/
theorem Value.IsExact.agrees_iff (exact : value.IsExact) (other : Value) :
    value.agrees other = true ↔ value = other := by
  induction exact generalizing other with
  | null | bool | text => cases other <;> simp [agrees]
  | integer n =>
    cases other with
    | number m => cases m <;> simp [agrees, Number.agrees]
    | _ => simp [agrees]
  | list _ ih =>
    cases other with
    | list others => simp [agrees, itemsAgree_iff ih]
    | _ => simp [agrees]
  | object _ ih =>
    cases other with
    | object others => simp [agrees, membersAgree_iff ih]
    | _ => simp [agrees]

/-! ## What holds the values -/

/-- Each of several items is spelled by some bytes. -/
theorem Separated.exists_spells (h : Separated spells items bytes) (hitem : item ∈ items) :
    ∃ bytes, spells item bytes := by
  induction h with
  | last spelled =>
    obtain rfl := List.mem_singleton.mp hitem
    exact ⟨_, spelled⟩
  | next spelled _ _ ih =>
    rcases List.mem_cons.mp hitem with rfl | hrest
    · exact ⟨_, spelled⟩
    · exact ih hrest

/-- What a list or an object encloses is spelled, item by item. -/
theorem Enclosed.exists_spells (h : Enclosed close spells items bytes) (hitem : item ∈ items) :
    ∃ bytes, spells item bytes := by
  cases h with
  | empty => cases hitem
  | items _ separated _ => exact separated.exists_spells hitem

/-- The value of a member is spelled by some bytes. -/
theorem SpellsMember.exists_spells {member : String × α} (h : SpellsMember spells member bytes) :
    ∃ bytes, spells member.2 bytes := by
  obtain ⟨_, _, _, ⟨_, content, _, spelled, _⟩, _⟩ := h
  exact ⟨content, spelled⟩

/-! ## Writing -/

/-- A token may stand alone. -/
theorem isToken_singleton (token : UInt8) : IsToken token [token] :=
  ⟨[], [], isGap_nil, isGap_nil, rfl⟩

/-- Texts with commas between them, and blanks around the commas, separate what each of the texts
spells. -/
theorem separated_intercalate {write : α → String} {comma : String}
    (isComma : IsToken 0x2C (Utf8.encode comma)) (nonempty : items ≠ [])
    (all : ∀ item ∈ items, spells item (Utf8.encode (write item))) :
    Separated spells items (Utf8.encode (comma.intercalate (items.map write))) := by
  induction items with
  | nil => exact absurd rfl nonempty
  | cons first items ih =>
    obtain ⟨hfirst, hitems⟩ := List.forall_mem_cons.mp all
    cases items with
    | nil => simpa using .last hfirst
    | cons second items =>
      rw [List.map_cons, List.map_cons, String.intercalate_cons_cons, Utf8.encode_append,
        Utf8.encode_append, List.append_assoc]
      exact .next hfirst isComma (ih (List.cons_ne_nil _ _) hitems)

/-- What stands between the brackets or braces of texts with commas between them. -/
theorem enclosed_intercalate {write : α → String}
    (all : ∀ item ∈ items, spells item (Utf8.encode (write item))) :
    Enclosed close spells items (Utf8.encode (",".intercalate (items.map write)) ++ [close]) := by
  cases items with
  | nil => exact .empty isGap_nil
  | cons first items =>
    have hcomma : IsToken 0x2C (Utf8.encode ",") := isToken_singleton 0x2C
    have hseparated := separated_intercalate hcomma (List.cons_ne_nil first items) all
    have henclosed : Enclosed close spells (first :: items) _ :=
      .items isGap_nil hseparated isGap_nil
    simpa using henclosed

/-- A text in quotes spells the text. -/
theorem spellsText_quoted (text : String) : SpellsText text (Utf8.encode (quoted text)) := by
  obtain ⟨inner, hinner, hbytes⟩ := exists_encode_quoted text
  exact ⟨inner, hinner, hbytes⟩

/-- A key, a colon with any blanks around it, and what spells the value are a member. -/
theorem spellsMember_append {member : String × α} {colon content : String}
    (isColon : IsToken 0x3A (Utf8.encode colon)) (spelled : spells member.2 (Utf8.encode content)) :
    SpellsMember spells member (Utf8.encode (quoted member.1 ++ colon ++ content)) := by
  rw [Utf8.encode_append, Utf8.encode_append, List.append_assoc]
  exact ⟨_, _, spellsText_quoted _, ⟨_, _, isColon, spelled, rfl⟩, rfl⟩

/-- A member without blanks. -/
def memberText (member : String × Value) : String :=
  quoted member.1 ++ ":" ++ member.2.compact

/-- Items are written with commas between them. -/
theorem Value.compactItems_eq (items : List Value) :
    compactItems items = ",".intercalate (items.map compact) := by
  induction items with
  | nil => rfl
  | cons first items ih =>
    cases items with
    | nil => simp [compactItems]
    | cons second items => simp [compactItems, ih]

/-- Members are written with commas between them. -/
theorem Value.compactMembers_eq (members : List (String × Value)) :
    compactMembers members = ",".intercalate (members.map memberText) := by
  induction members with
  | nil => rfl
  | cons first members ih =>
    cases members with
    | nil => simp [compactMembers, memberText]
    | cons second members => simp [compactMembers, memberText, ih]

/-- An object whose members are spelled is spelled without blanks, as what it keeps of them. -/
theorem spellsContainer_compact {spells : Value → List UInt8 → Prop}
    {members kept : List (String × Value)} (keeps : Keeps members kept)
    (all : ∀ member ∈ members, spells member.2 (Utf8.encode member.2.compact)) :
    SpellsContainer spells (.object kept) (Utf8.encode (Value.object members).compact) := by
  have hmembers : ∀ member ∈ members,
      SpellsMember spells member (Utf8.encode (memberText member)) :=
    fun member hmember => spellsMember_append (isToken_singleton 0x3A) (all member hmember)
  have hbytes : Utf8.encode (Value.object members).compact =
      0x7B :: (Utf8.encode (",".intercalate (members.map memberText)) ++ [0x7D]) := by
    rw [Value.compact, Value.compactMembers_eq, Utf8.encode_append, Utf8.encode_append]
    rfl
  rw [hbytes]
  exact .object (enclosed_intercalate hmembers) keeps

/-- The integers that fit 64 bits are spelled by their digits. -/
theorem Numeral.MeansInteger.spellsScalar {numeral : Numeral} {number : Number}
    (h : numeral.MeansInteger number) :
    SpellsScalar MeansInteger (.number number) (Utf8.encode number.render) := by
  cases h with
  | @unsigned whole fits =>
    generalize decimalValue whole = n at fits ⊢
    have hvalue := decimalValue_toDigits n
    have hmeans := MeansInteger.unsigned (hvalue.symm ▸ fits)
    rw [hvalue] at hmeans
    have hbytes : Utf8.encode (Number.integer n).render =
        (Nat.toDigits 10 n).map digitByte := encode_toString n
    rw [hbytes]
    exact .number (spellsNumeral_toDigits false n) hmeans
  | @negative whole nonzero fits =>
    generalize decimalValue whole = n at nonzero fits ⊢
    have hvalue := decimalValue_toDigits n
    have hmeans := MeansInteger.negative (hvalue.symm ▸ nonzero) (hvalue.symm ▸ fits)
    rw [hvalue] at hmeans
    have hbytes : Utf8.encode (Number.integer (-n)).render =
        0x2D :: (Nat.toDigits 10 n).map digitByte := by
      obtain ⟨m, rfl⟩ := Nat.exists_eq_succ_of_ne_zero nonzero
      change Utf8.encode ("-" ++ toString (m + 1)) = _
      rw [Utf8.encode_append, encode_toString]
      rfl
    rw [hbytes]
    exact .number (spellsNumeral_toDigits true n) hmeans

/-- A scalar that was read is spelled by what is written of it, if it is no double. -/
theorem SpellsScalar.encode_compact (h : SpellsScalar Numeral.Means value bytes)
    (exact : value.IsExact) :
    SpellsScalar Numeral.MeansInteger value (Utf8.encode value.compact) := by
  cases h with
  | null => exact .null
  | ofTrue => exact .ofTrue
  | ofFalse => exact .ofFalse
  | number spelled meant =>
    cases exact
    exact meant.meansInteger.spellsScalar
  | text => exact .text (spellsText_quoted _)

/-- What the writer writes of a document without doubles spells it, and needs no deeper nesting than
any other spelling. -/
theorem SpellsValue.encode_compact (h : SpellsValue Numeral.Means depth value bytes)
    (exact : value.IsExact) :
    SpellsValue Numeral.MeansInteger depth value (Utf8.encode value.compact) := by
  induction depth generalizing value bytes with
  | zero => exact SpellsScalar.encode_compact h exact
  | succ depth ih =>
    rcases h with scalar | container
    · exact .inl (scalar.encode_compact exact)
    · refine .inr ?_
      cases container with
      | @list items _ enclosed =>
        have all : ∀ item ∈ items, item.IsExact := by
          cases exact with
          | list all => exact all
        have hitems : ∀ item ∈ items,
            SpellsValue Numeral.MeansInteger depth item (Utf8.encode item.compact) := by
          intro item hitem
          obtain ⟨_, spelled⟩ := enclosed.exists_spells hitem
          exact ih spelled (all item hitem)
        have hbytes : Utf8.encode (Value.list items).compact =
            0x5B :: (Utf8.encode (",".intercalate (items.map Value.compact)) ++ [0x5D]) := by
          rw [Value.compact, Value.compactItems_eq, Utf8.encode_append, Utf8.encode_append]
          rfl
        rw [hbytes]
        exact .list (enclosed_intercalate hitems)
      | @object members kept _ enclosed keeps =>
        have all : ∀ member ∈ kept, member.2.IsExact := by
          cases exact with
          | object all => exact all
        refine spellsContainer_compact keeps.self fun member hmember => ?_
        obtain ⟨_, spelled⟩ := enclosed.exists_spells (keeps.subset hmember)
        obtain ⟨_, content⟩ := spelled.exists_spells
        exact ih content (all member hmember)

/-- A document without doubles is read back from what the writer writes of it. -/
theorem Value.ofBytes_encode_compact (h : Value.ofBytes bytes = .ok value) (exact : value.IsExact) :
    Value.ofBytes (Utf8.encode value.compact) = .ok value := by
  rw [ofBytes_eq_ok_iff] at h ⊢
  obtain ⟨_, inner, _, _, spelled, _, _⟩ := h
  have hwritten := (spelled.encode_compact exact).mono fun _ _ => Numeral.MeansInteger.means
  exact ⟨[], _, [], isGap_nil, hwritten, isGap_nil, by simp⟩

end HealthPanel.Json
