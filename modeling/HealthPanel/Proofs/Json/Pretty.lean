import HealthPanel.Proofs.Json.Writing

/-!
# Objects over several lines

An object over several lines has each member on a line of its own, indented. What is between the
members are a comma and blanks, so that it spells what the object without blanks spells.
-/

namespace HealthPanel.Json

variable {members kept : List (String × Value)} {spells : Value → List UInt8 → Prop}

/-- A member on a line of its own, without what indents the line. -/
def prettyMemberText (level : Nat) (member : String × Value) : String :=
  quoted member.1 ++ ": " ++ member.2.prettyAt level

/-- The lines of the members begin alike, and all but the last end in a comma. -/
theorem prettyMembers_eq (level : Nat) (h : members ≠ []) :
    Value.prettyMembers level members = Value.newLine level ++
      ("," ++ Value.newLine level).intercalate (members.map (prettyMemberText level)) := by
  induction members with
  | nil => exact absurd rfl h
  | cons member members ih =>
    obtain ⟨key, value⟩ := member
    cases members with
    | nil =>
      simp only [Value.prettyMembers, List.map_cons, List.map_nil, String.intercalate_singleton,
        prettyMemberText, String.append_assoc]
    | cons other members =>
      have hrest := ih (List.cons_ne_nil _ _)
      simp only [Value.prettyMembers]
      rw [hrest]
      simp only [List.map_cons, String.intercalate_cons_cons, prettyMemberText,
        String.append_assoc]

/-- The members of an object in two parts are written one part after the other. -/
theorem prettyMembers_append (level : Nat) {first rest : List (String × Value)}
    (hfirst : first ≠ []) (hrest : rest ≠ []) :
    Value.prettyMembers level (first ++ rest) =
      Value.prettyMembers level first ++ "," ++ Value.prettyMembers level rest := by
  rw [prettyMembers_eq level (List.append_ne_nil_of_left_ne_nil hfirst rest),
    prettyMembers_eq level hfirst, prettyMembers_eq level hrest, List.map_append,
    String.intercalate_append_of_ne_nil (by simpa using hfirst) (by simpa using hrest)]
  simp only [String.append_assoc]

/-- An object with members has them on lines of their own. -/
theorem prettyAt_object (level : Nat) (h : members ≠ []) :
    Value.prettyAt level (.object members) =
      "\x7b" ++ Value.prettyMembers (level + 1) members ++ Value.newLine level ++ "\x7d" := by
  obtain ⟨member, rest, rfl⟩ := List.exists_cons_of_ne_nil h
  rw [Value.prettyAt]
  exact List.cons_ne_nil _ _

/-! ## Blanks -/

/-- A new line with its indentation is blanks. -/
theorem isGap_newLine (level : Nat) : IsGap (Utf8.encode (Value.newLine level)) := by
  have hletters : ∀ c ∈ '\n' :: List.replicate (2 * level) ' ', c = '\n' ∨ c = ' ' :=
    List.forall_mem_cons.mpr ⟨.inl rfl, fun c hc => .inr (List.eq_of_mem_replicate hc)⟩
  have hascii : ∀ c ∈ '\n' :: List.replicate (2 * level) ' ', c.toNat < 0x80 := by
    intro c hc
    rcases hletters c hc with rfl | rfl <;> decide
  rw [Value.newLine, Utf8.encode_of_ascii hascii]
  intro b hb
  obtain ⟨c, hc, rfl⟩ := List.mem_map.mp hb
  rcases hletters c hc with rfl | rfl <;> rfl

/-- A comma with the line break behind it. -/
theorem isToken_comma_newLine (level : Nat) :
    IsToken 0x2C (Utf8.encode ("," ++ Value.newLine level)) :=
  ⟨[], _, isGap_nil, isGap_newLine level, Utf8.encode_append _ _⟩

/-- A colon with a blank behind it is a colon. -/
theorem isToken_colon_space : IsToken 0x3A (Utf8.encode ": ") :=
  ⟨[], [0x20], isGap_nil, List.forall_mem_singleton.mpr rfl, rfl⟩

/-- An object whose members are spelled is spelled over several lines, as what it keeps of them. -/
theorem spellsContainer_prettyAt (level : Nat) (keeps : Keeps members kept)
    (all : ∀ member ∈ members, spells member.2 (Utf8.encode (member.2.prettyAt (level + 1)))) :
    SpellsContainer spells (.object kept)
      (Utf8.encode ((Value.object members).prettyAt level)) := by
  by_cases h : members = []
  · subst h
    exact .object (.empty isGap_nil) keeps
  · have hmembers : ∀ member ∈ members,
        SpellsMember spells member (Utf8.encode (prettyMemberText (level + 1) member)) :=
      fun member hmember => spellsMember_append isToken_colon_space (all member hmember)
    have hseparated := separated_intercalate (isToken_comma_newLine (level + 1)) h hmembers
    have hbytes : Utf8.encode ((Value.object members).prettyAt level) =
        0x7B :: (Utf8.encode (Value.newLine (level + 1)) ++
          (Utf8.encode (("," ++ Value.newLine (level + 1)).intercalate
            (members.map (prettyMemberText (level + 1)))) ++
            (Utf8.encode (Value.newLine level) ++ [0x7D]))) := by
      rw [prettyAt_object level h, prettyMembers_eq _ h]
      simp only [Utf8.encode_append, List.append_assoc]
      rfl
    rw [hbytes]
    exact .object (.items (isGap_newLine _) hseparated (isGap_newLine _)) keeps

/-! ## Objects of texts -/

/-- What spells a list or an object that is not too deep is read as it. -/
theorem Value.ofBytes_of_spellsContainer {value : Value} {bytes : List UInt8}
    (h : SpellsContainer (SpellsValue Numeral.Means 126) value bytes) :
    Value.ofBytes bytes = .ok value :=
  ofBytes_eq_ok_iff.mpr ⟨[], bytes, [], isGap_nil, .inr h, isGap_nil, by simp⟩

/-- An object of texts is read back, as what it keeps of its members, whether or not it is written
over several lines. -/
theorem ofBytes_encode_texts (keeps : Keeps members kept)
    (texts : ∀ member ∈ members, ∃ text, member.2 = .text text) :
    Value.ofBytes (Utf8.encode (Value.object members).compact) = .ok (.object kept) ∧
      Value.ofBytes (Utf8.encode (Value.object members).pretty) = .ok (.object kept) := by
  have hquoted (text : String) :
      SpellsValue Numeral.Means 126 (.text text) (Utf8.encode (quoted text)) :=
    SpellsScalar.spellsValue (.text (spellsText_quoted text))
  constructor
  · refine Value.ofBytes_of_spellsContainer (spellsContainer_compact keeps fun member hmember => ?_)
    obtain ⟨text, htext⟩ := texts member hmember
    rw [htext]
    exact hquoted text
  · refine Value.ofBytes_of_spellsContainer
      (spellsContainer_prettyAt 0 keeps fun member hmember => ?_)
    obtain ⟨text, htext⟩ := texts member hmember
    rw [htext]
    exact hquoted text

end HealthPanel.Json
