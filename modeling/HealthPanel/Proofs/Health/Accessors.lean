import HealthPanel.Proofs.Health.Decoding

/-!
# What a payload tells of the text it was read from

The version, the environment and the city are read off the members that stand in the text of the
outermost object: of those with the name in question the last one counts, and only if it is a text.
Nothing else in the text matters.
-/

namespace HealthPanel

namespace Json

variable {key : String} {value : Value} {members kept : List (String × Value)} {bytes : List UInt8}

/-- Bytes whose outermost value is an object with these members, as they stand in the text. -/
def SpellsMembers (members : List (String × Value)) (bytes : List UInt8) : Prop :=
  ∃ front inner back, IsGap front ∧
    Enclosed 0x7D (SpellsMember (SpellsValue Numeral.Means 126)) members inner ∧ IsGap back ∧
    bytes = front ++ (0x7B :: inner ++ back)

/-- The value of the last of the members with a key. -/
def EndsUpAs (key : String) (value : Value) (members : List (String × Value)) : Prop :=
  ∃ earlier later, members = earlier ++ (key, value) :: later ∧ ∀ member ∈ later, member.1 ≠ key

/-- The last member with a key is the one found from behind. -/
theorem lookup_reverse_eq_some_iff :
    members.reverse.lookup key = some value ↔ EndsUpAs key value members := by
  rw [List.lookup_eq_some_iff]
  constructor
  · rintro ⟨later, earlier, hmembers, hlater⟩
    refine ⟨earlier.reverse, later.reverse, ?_, fun member hmember => ?_⟩
    · simpa using congrArg List.reverse hmembers
    · have hne := hlater member (List.mem_reverse.mp hmember)
      exact Ne.symm (by simpa using hne)
  · rintro ⟨earlier, later, rfl, hlater⟩
    refine ⟨later.reverse, earlier.reverse, by simp, fun member hmember => ?_⟩
    have hne := hlater member (List.mem_reverse.mp hmember)
    simpa using hne.symm

/-- What a key ends up as is decided by the last of the members with that key. -/
theorem endsUpAs_iff_getLast? :
    EndsUpAs key value members ↔
      (members.filter fun member => member.1 = key).getLast? = some (key, value) := by
  rw [List.getLast?_filter, List.find?_eq_some_iff_append]
  constructor
  · rintro ⟨earlier, later, rfl, hlater⟩
    exact ⟨by simp, later.reverse, earlier.reverse, by simp, by simpa using hlater⟩
  · rintro ⟨-, later, earlier, hmembers, hlater⟩
    refine ⟨earlier.reverse, later.reverse, ?_, by simpa using hlater⟩
    simpa using congrArg List.reverse hmembers

/-- An object is spelled by members of which it keeps the last of each key. -/
theorem spellsDocument_object_iff :
    SpellsDocument Numeral.Means (.object kept) bytes ↔
      ∃ members, SpellsMembers members bytes ∧ Keeps members kept := by
  constructor
  · rintro ⟨front, inner, back, isFront, spelled, isBack, rfl⟩
    rcases spelled with scalar | container
    · cases scalar
    · cases container with
      | object enclosed keeps => exact ⟨_, ⟨front, _, back, isFront, enclosed, isBack, rfl⟩, keeps⟩
  · rintro ⟨members, ⟨front, inner, back, isFront, enclosed, isBack, rfl⟩, keeps⟩
    exact ⟨front, _, back, isFront, .inr (.object enclosed keeps), isBack, rfl⟩

end Json

namespace Payload

open HealthPanel.Json (Value EndsUpAs Keeps SpellsMembers)

variable {bytes : List UInt8} {payload : Payload} {key text : String}
  {members kept : List (String × Value)}

/-- The document of a body whose members are known keeps the last of each key. -/
theorem exists_kept_of_spellsMembers (h : ofBytes bytes = .ok payload)
    (spelled : SpellsMembers members bytes) :
    ∃ kept, payload.document = .object kept ∧ Keeps members kept := by
  have hkeeps := Json.keeps_foldl members
  have hread : ofBytes bytes = .ok ⟨.object _⟩ :=
    ofBytes_eq_ok_iff.mpr (Json.spellsDocument_object_iff.mpr ⟨members, spelled, hkeeps⟩)
  exact ⟨_, congrArg document (Except.ok.inj (h.symm.trans hread)), hkeeps⟩

/-- A member is found exactly where the last member with its key is a text. -/
theorem field_eq_some_iff (h : payload.document = .object kept) (keeps : Keeps members kept) :
    payload.field key = some text ↔ EndsUpAs key (.text text) members := by
  have htext (value : Value) : value.text? = some text ↔ value = .text text := by
    cases value <;> simp [Value.text?]
  rw [field, h, Value.get?, keeps.2, Option.bind_eq_some_iff, ← Json.lookup_reverse_eq_some_iff]
  simp [htext]

/-- The names of what is read off a payload, and how it is read. -/
def accessors : List (String × (Payload → Option String)) :=
  [("version", version), ("environment", environment), ("city", city)]

/-- Each accessor reads the member that it is named after. -/
theorem field_of_mem_accessors {name : String} {accessor : Payload → Option String}
    (h : (name, accessor) ∈ accessors) : accessor = fun payload => payload.field name := by
  simp only [accessors, List.mem_cons, Prod.mk.injEq, List.not_mem_nil, or_false] at h
  rcases h with ⟨rfl, rfl⟩ | ⟨rfl, rfl⟩ | ⟨rfl, rfl⟩ <;> rfl

/-- What is read off a payload under a name is the text of the last member of that name in the
outermost object, if there is such an object and the last such member is a text. Two bodies in which
the same member of that name comes last tell the same under it, whatever their other members are and
however both are spelled. -/
theorem accessor_reads_last_member {name : String} {accessor : Payload → Option String}
    (haccessor : (name, accessor) ∈ accessors) (h : ofBytes bytes = .ok payload) :
    (∀ text, accessor payload = some text ↔
      ∃ members, SpellsMembers members bytes ∧ EndsUpAs name (.text text) members) ∧
    (∀ members, SpellsMembers members bytes →
      ∀ text, accessor payload = some text ↔ EndsUpAs name (.text text) members) ∧
    ∀ otherBytes other members others, ofBytes otherBytes = .ok other →
      SpellsMembers members bytes → SpellsMembers others otherBytes →
      (members.filter fun member => member.1 = name).getLast? =
        (others.filter fun member => member.1 = name).getLast? →
      accessor payload = accessor other := by
  obtain rfl := field_of_mem_accessors haccessor
  have hfield {bytes : List UInt8} {payload : Payload} (h : ofBytes bytes = .ok payload)
      {members : List (String × Value)} (spelled : SpellsMembers members bytes) (text : String) :
      payload.field name = some text ↔ EndsUpAs name (.text text) members := by
    obtain ⟨kept, hdocument, keeps⟩ := exists_kept_of_spellsMembers h spelled
    exact field_eq_some_iff hdocument keeps
  refine ⟨fun text => ⟨fun htext => ?_, ?_⟩, fun members => hfield h, ?_⟩
  · -- Only an object has members to be found.
    obtain ⟨document⟩ := payload
    cases document with
    | object kept =>
      obtain ⟨members, spelled, -⟩ :=
        Json.spellsDocument_object_iff.mp (ofBytes_eq_ok_iff.mp h)
      exact ⟨members, spelled, (hfield h spelled text).mp htext⟩
    | _ => cases htext
  · rintro ⟨members, spelled, ends⟩
    exact (hfield h spelled text).mpr ends
  · intro otherBytes other members others hother spelled spelledOther hlast
    refine Option.ext fun text => ?_
    rw [hfield h spelled, hfield hother spelledOther, Json.endsUpAs_iff_getLast?, hlast,
      ← Json.endsUpAs_iff_getLast?]

/-- A key spelled by escapes is the same key, and comes last here; the one further inside is another
object's. -/
theorem accessor_reads_last_member_escaped :
    let bytes := Utf8.encode ("\x7b\"version\":1,\"vers\\u0069on\":\"\\u0033\"," ++
      "\"is\":\x7b\"version\":\"2\"\x7d\x7d")
    let payload : Payload := ⟨.object [
      ("is", .object [("version", .text "2")]), ("version", .text "3")]⟩
    ("version", version) ∈ accessors ∧ ofBytes bytes = .ok payload ∧
      version payload = some "3" ∧
      ∃ members, SpellsMembers members bytes ∧ EndsUpAs "version" (.text "3") members := by
  intro bytes payload
  have hmem : ("version", version) ∈ accessors := List.mem_cons_self
  have hread : ofBytes bytes = .ok payload := rfl
  have hversion : version payload = some "3" := by decide
  exact ⟨hmem, hread, hversion,
    ((accessor_reads_last_member hmem hread).1 "3").mp hversion⟩

end Payload

end HealthPanel
