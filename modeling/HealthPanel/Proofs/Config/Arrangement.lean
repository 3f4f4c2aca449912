import HealthPanel.Proofs.Config.Loading
import HealthPanel.Proofs.Config.Meaning
import Mathlib.Data.List.Pairwise

/-!
# The order of members and members that nobody knows

Each member of a record goes into a place of its own, so that members may come in any order, and
none goes into the place of another. A member that no field is named after goes nowhere. So a file
that is rearranged, with unknown members among the known ones and with other blanks, gives the same
configuration, and a file that names a known member twice in one object gives none.
-/

namespace HealthPanel

/-! ## Folds over steps that commute -/

section

variable {σ α : Type} {f : σ → α → Option σ} {first second : List α}

/-- Steps that commute may be taken in any order. -/
theorem foldlM_perm (comm : ∀ state a b, (f state a).bind (f · b) = (f state b).bind (f · a))
    (h : first.Perm second) (state : σ) : first.foldlM f state = second.foldlM f state := by
  induction h generalizing state with
  | nil => rfl
  | cons a _ ih => simp only [List.foldlM_cons, ih]
  | swap a b rest =>
    simp only [List.foldlM_cons, Option.bind_eq_bind]
    rw [← Option.bind_assoc, ← Option.bind_assoc, comm]
  | trans _ _ ih ih' => exact (ih state).trans (ih' state)

/-- A step that fails wherever it is taken makes all fail. -/
theorem foldlM_eq_none {a : α} (fails : ∀ state, f state a = none) (h : a ∈ first) (state : σ) :
    first.foldlM f state = none := by
  induction first generalizing state with
  | nil => cases h
  | cons b rest ih =>
    rw [List.foldlM_cons, Option.bind_eq_bind]
    rcases List.mem_cons.mp h with rfl | hrest
    · rw [fails]
      rfl
    · cases f state b with
      | none => rfl
      | some next => exact ih hrest next

end

namespace JsonFile

open HealthPanel.Json (Tree textOf?)
open Meaning (takeNamed takeMember)

variable {Draft α : Type} {fields : List (Field Meaning Draft)} {draft : Draft}
  {members others inserted : List (List UInt8 × Tree)} {member : List UInt8 × Tree}

/-! ## Fields that have places of their own -/

/-- Two fields such that each leaves the place of the other as it is. -/
structure AreApart (field other : Field Meaning Draft) : Prop where
  keeps : ∀ {draft filled value}, field.read draft value = some filled →
    other.isSet filled = other.isSet draft
  keeps' : ∀ {draft filled value}, other.read draft value = some filled →
    field.isSet filled = field.isSet draft
  comm : ∀ draft value value', (field.read draft value).bind (other.read · value') =
    (other.read draft value').bind (field.read · value)

/-- Fields of which each fills its place, and any two have places apart. -/
structure AreUnordered (fields : List (Field Meaning Draft)) : Prop where
  fills : ∀ field ∈ fields, ∀ {draft filled value}, field.read draft value = some filled →
    field.isSet filled = true
  apart : ∀ field ∈ fields, ∀ other ∈ fields, field.name ≠ other.name → AreApart field other

/-- It does not matter which of two fields comes first. -/
theorem AreApart.symm {field other : Field Meaning Draft} (h : AreApart field other) :
    AreApart other field :=
  ⟨h.keeps', h.keeps, fun draft value value' => (h.comm draft value' value).symm⟩

/-- What a value makes of a draft in a field that must not be filled yet. -/
def fill (field : Field Meaning Draft) (draft : Draft) (value : Tree) : Option Draft :=
  if field.isSet draft then none else field.read draft value

/-- Two fields are filled if neither was before. -/
theorem AreApart.fill_bind {field other : Field Meaning Draft} (h : AreApart field other)
    (draft : Draft) (value value' : Tree) :
    (fill field draft value).bind (fill other · value') =
      if field.isSet draft || other.isSet draft then none
      else (field.read draft value).bind (other.read · value') := by
  rw [fill]
  by_cases hfield : field.isSet draft
  · simp [hfield]
  · cases hread : field.read draft value with
    | none => simp [hfield]
    | some filled => simp [hfield, fill, h.keeps hread]

/-- Two fields that are apart are filled in either order. -/
theorem AreApart.fill_comm {field other : Field Meaning Draft} (h : AreApart field other)
    (draft : Draft) (value value' : Tree) :
    (fill field draft value).bind (fill other · value') =
      (fill other draft value').bind (fill field · value) := by
  rw [h.fill_bind, h.symm.fill_bind, h.comm, Bool.or_comm]

/-- No field is filled twice. -/
theorem AreUnordered.fill_fill (h : AreUnordered fields) {field : Field Meaning Draft}
    (hfield : field ∈ fields) (draft : Draft) (value value' : Tree) :
    (fill field draft value).bind (fill field · value') = none := by
  rw [fill]
  split
  · rfl
  · cases hread : field.read draft value with
    | none => rfl
    | some filled => simp [fill, h.fills field hfield hread]

/-- Two members make of a draft in one order what they make of it in the other. -/
theorem AreUnordered.takeNamed_comm (h : AreUnordered fields) (draft : Draft) (name name' : String)
    (value value' : Tree) :
    (takeNamed fields draft name value).bind (takeNamed fields · name' value') =
      (takeNamed fields draft name' value').bind (takeNamed fields · name value) := by
  unfold takeNamed
  cases hfield : fields.find? (·.name = name) with
  | none => simp
  | some field =>
    cases hother : fields.find? (·.name = name') with
    | none => simp
    | some other =>
      have hmem := List.mem_of_find?_eq_some hfield
      have hmem' := List.mem_of_find?_eq_some hother
      have hname : field.name = name := by simpa using List.find?_some hfield
      have hname' : other.name = name' := by simpa using List.find?_some hother
      by_cases heq : name = name'
      · subst heq
        obtain rfl : field = other := Option.some.inj (hfield.symm.trans hother)
        exact (h.fill_fill hmem draft value value').trans (h.fill_fill hmem draft value' value).symm
      · exact (h.apart field hmem other hmem' (by rwa [hname, hname'])).fill_comm draft value value'

/-! ## Members that are rearranged -/

/-- A member of which the key is a text, but none of the known names. Its value is of any kind. -/
def IsUnknown (known : List String) (member : List UInt8 × Tree) : Prop :=
  ∃ name, textOf? member.1 = some name ∧ name ∉ known

/-- The members of an object in another order, with any number of unknown ones among them. -/
def AreRearranged (known : List String) (members others : List (List UInt8 × Tree)) : Prop :=
  ∃ inserted, (∀ member ∈ inserted, IsUnknown known member) ∧ others.Perm (inserted ++ members)

/-- Two members of an object have the same known key. -/
def Repeats (known : List String) (members : List (List UInt8 × Tree)) : Prop :=
  ∃ name ∈ known, ∃ front first middle second back,
    members = front ++ first :: (middle ++ second :: back) ∧
      textOf? first.1 = some name ∧ textOf? second.1 = some name

/-- An unknown member makes nothing of a draft. -/
theorem IsUnknown.takeMember_eq (h : IsUnknown (fields.map Field.name) member) (draft : Draft) :
    takeMember fields draft member = some draft := by
  obtain ⟨name, hname, hunknown⟩ := h
  have hnone : fields.find? (·.name = name) = none := by
    rw [List.find?_eq_none]
    rintro field hfield hfound
    exact hunknown (List.mem_map.mpr ⟨field, hfield, of_decide_eq_true hfound⟩)
  simp only [takeMember, hname, Option.bind_some, takeNamed, hnone]

/-- Two members make of a draft in one order what they make of it in the other. -/
theorem AreUnordered.takeMember_comm (h : AreUnordered fields) (draft : Draft)
    (a b : List UInt8 × Tree) :
    (takeMember fields draft a).bind (takeMember fields · b) =
      (takeMember fields draft b).bind (takeMember fields · a) := by
  simp only [takeMember]
  cases textOf? a.1 with
  | none => simp
  | some name =>
    cases textOf? b.1 with
    | none => simp
    | some name' => exact h.takeNamed_comm draft name name' a.2 b.2

/-- Two members with the same known key make nothing of any draft. -/
theorem AreUnordered.takeMember_takeMember (h : AreUnordered fields) {a b : List UInt8 × Tree}
    {name : String} (known : name ∈ fields.map Field.name) (ha : textOf? a.1 = some name)
    (hb : textOf? b.1 = some name) (draft : Draft) :
    (takeMember fields draft a).bind (takeMember fields · b) = none := by
  cases hfield : fields.find? (·.name = name) with
  | none =>
    obtain ⟨field, hmem, hname⟩ := List.mem_map.mp known
    exact absurd (decide_eq_true hname) (List.find?_eq_none.mp hfield field hmem)
  | some field =>
    simp only [takeMember, ha, hb, Option.bind_some, takeNamed, hfield]
    exact h.fill_fill (List.mem_of_find?_eq_some hfield) draft a.2 b.2

/-- Members that are rearranged make the same of a draft. -/
theorem AreUnordered.foldlM_rearranged (h : AreUnordered fields)
    (rearranged : AreRearranged (fields.map Field.name) members others) (draft : Draft) :
    others.foldlM (takeMember fields) draft = members.foldlM (takeMember fields) draft := by
  obtain ⟨inserted, hunknown, hperm⟩ := rearranged
  have hinserted : inserted.foldlM (takeMember fields) draft = some draft := by
    clear hperm
    induction inserted with
    | nil => rfl
    | cons first inserted ih =>
      obtain ⟨hfirst, hothers⟩ := List.forall_mem_cons.mp hunknown
      rw [List.foldlM_cons, hfirst.takeMember_eq]
      exact ih hothers
  rw [foldlM_perm h.takeMember_comm hperm, List.foldlM_append, hinserted]
  rfl

/-- Members of which two have the same known key make nothing of any draft. -/
theorem AreUnordered.foldlM_repeats (h : AreUnordered fields)
    (repeats : Repeats (fields.map Field.name) members) (draft : Draft) :
    members.foldlM (takeMember fields) draft = none := by
  obtain ⟨name, known, front, first, middle, second, back, rfl, hfirst, hsecond⟩ := repeats
  have hperm : (front ++ first :: (middle ++ second :: back)).Perm
      (first :: second :: (front ++ (middle ++ back))) := by
    refine List.perm_middle.trans (.cons first ?_)
    rw [← List.append_assoc, ← List.append_assoc]
    exact List.perm_middle
  rw [foldlM_perm h.takeMember_comm hperm]
  simp only [List.foldlM_cons, Option.bind_eq_bind]
  rw [← Option.bind_assoc, h.takeMember_takeMember known hfirst hsecond]
  rfl

variable {record : Record Meaning Draft α}

/-- Objects mean the same if their members make the same of a draft. -/
theorem record_congr (alike : others.foldlM (takeMember record.fields) record.blank =
      members.foldlM (takeMember record.fields) record.blank) :
    Meaning.record record (.object others) = Meaning.record record (.object members) := by
  rw [Meaning.record, Meaning.record, alike]

/-- An object of which the members make nothing means nothing. -/
theorem record_eq_none (fails : members.foldlM (takeMember record.fields) record.blank = none) :
    Meaning.record record (.object members) = none := by
  rw [Meaning.record, fails]
  rfl

/-- An object with its members rearranged means the same record. -/
theorem AreUnordered.record_rearranged (h : AreUnordered record.fields)
    (rearranged : AreRearranged (record.fields.map Field.name) members others) :
    Meaning.record record (.object others) = Meaning.record record (.object members) :=
  record_congr (h.foldlM_rearranged rearranged _)

/-- An object that repeats a known member means no record. -/
theorem AreUnordered.record_repeats (h : AreUnordered record.fields)
    (repeats : Repeats (record.fields.map Field.name) members) :
    Meaning.record record (.object members) = none :=
  record_eq_none (h.foldlM_repeats repeats _)

/-! ## The records of a configuration -/

/-- Fields of which any two are apart are unordered. -/
theorem areUnordered_of_pairwise (fills : ∀ field ∈ fields, ∀ {draft filled value},
      field.read draft value = some filled → field.isSet filled = true)
    (pairwise : fields.Pairwise AreApart) : AreUnordered fields := by
  have hpairs : fields.Pairwise fun field other =>
      field.name ≠ other.name → AreApart field other := by
    refine pairwise.imp ?_
    intro field other h _
    exact h
  have hsymm : Std.Symm fun field other : Field Meaning Draft =>
      field.name ≠ other.name → AreApart field other :=
    ⟨fun field other h hne => (h hne.symm).symm⟩
  refine ⟨fills, fun field hfield other hother => ?_⟩
  exact hpairs.forall_of_forall (fun field _ hne => absurd rfl hne) hfield hother

/-- A field fills the place that it sets. -/
theorem isSet_of_read {name : String} {get : Draft → Option α} {set : Draft → Option α → Draft}
    {contents : Meaning α} (lawful : ∀ draft value, get (set draft value) = value)
    {draft filled : Draft} {value : Tree}
    (h : (FileFormat.field name get set contents).read draft value = some filled) :
    (FileFormat.field name get set contents).isSet filled = true := by
  obtain ⟨content, -, rfl⟩ := Option.map_eq_some_iff.mp h
  simp [FileFormat.field, lawful]

/-- Fields are apart if the places that they set are. -/
theorem areApart_field {β : Type} {name name' : String} {get : Draft → Option α}
    {set : Draft → Option α → Draft} {contents : Meaning α} {get' : Draft → Option β}
    {set' : Draft → Option β → Draft} {contents' : Meaning β}
    (keeps : ∀ draft value, get' (set draft value) = get' draft)
    (keeps' : ∀ draft value, get (set' draft value) = get draft)
    (comm : ∀ draft value value', set' (set draft value) value' = set (set' draft value') value) :
    AreApart (FileFormat.field name get set contents)
      (FileFormat.field name' get' set' contents') := by
  refine ⟨fun {draft filled value} h => ?_, fun {draft filled value} h => ?_,
    fun draft value value' => ?_⟩
  · obtain ⟨content, -, rfl⟩ := Option.map_eq_some_iff.mp h
    simp [FileFormat.field, keeps]
  · obtain ⟨content, -, rfl⟩ := Option.map_eq_some_iff.mp h
    simp [FileFormat.field, keeps']
  · change ((contents value).map _).bind (fun draft => (contents' value').map _) =
      ((contents' value').map _).bind fun draft => (contents value).map _
    cases contents value <;> cases contents' value' <;> simp [comm]

/-- The one field of the endpoint fills its place. -/
theorem areUnordered_endpoint : AreUnordered Meaning.format.endpointRecord.fields :=
  areUnordered_of_pairwise (List.forall_mem_singleton.mpr (isSet_of_read fun _ _ => rfl))
    (List.pairwise_singleton _ _)

/-- The one field of the limits fills its place. -/
theorem areUnordered_probe : AreUnordered Meaning.format.probeRecord.fields :=
  areUnordered_of_pairwise (List.forall_mem_singleton.mpr (isSet_of_read fun _ _ => rfl))
    (List.pairwise_singleton _ _)

/-- The two fields of the log have places of their own. -/
theorem areUnordered_logging : AreUnordered Meaning.format.loggingRecord.fields :=
  areUnordered_of_pairwise
    (List.forall_mem_cons.mpr ⟨isSet_of_read fun _ _ => rfl,
      List.forall_mem_singleton.mpr (isSet_of_read fun _ _ => rfl)⟩)
    (.cons (List.forall_mem_singleton.mpr
      (areApart_field (fun _ _ => rfl) (fun _ _ => rfl) fun _ _ _ => rfl))
      (List.pairwise_singleton _ _))

/-- The three sections of a configuration have places of their own. -/
theorem areUnordered_config : AreUnordered Meaning.format.configRecord.fields := by
  refine areUnordered_of_pairwise (List.forall_mem_cons.mpr ⟨isSet_of_read fun _ _ => rfl,
    List.forall_mem_cons.mpr ⟨isSet_of_read fun _ _ => rfl,
      List.forall_mem_singleton.mpr (isSet_of_read fun _ _ => rfl)⟩⟩)
    (.cons (List.forall_mem_cons.mpr ⟨?_, List.forall_mem_singleton.mpr ?_⟩)
      (.cons (List.forall_mem_singleton.mpr ?_) (List.pairwise_singleton _ _)))
  all_goals exact areApart_field (fun _ _ => rfl) (fun _ _ => rfl) fun _ _ _ => rfl

/-! ## Whole files that are rearranged -/

/-- The names of the sections of a configuration, and of the fields of each. -/
def sectionFields : List (String × List String) :=
  [("endpoint", ["base_url"]), ("probe", ["timeout_secs"]), ("logging", ["level", "format"])]

/-- A member of the root as it was, or a section that is an object with its members rearranged. -/
inductive SectionRearranged : List UInt8 × Tree → List UInt8 × Tree → Prop
  | same (member : List UInt8 × Tree) : SectionRearranged member member
  | inside {key : List UInt8} {name : String} {known : List String}
    {members others : List (List UInt8 × Tree)} (named : textOf? key = some name)
    (isSection : (name, known) ∈ sectionFields) (rearranged : AreRearranged known members others) :
    SectionRearranged (key, .object members) (key, .object others)

/-- The members of the root rearranged, and with them those of its sections. -/
def RootRearranged (members others : List (List UInt8 × Tree)) : Prop :=
  ∃ changed, List.Forall₂ SectionRearranged members changed ∧
    AreRearranged (sectionFields.map Prod.fst) changed others

/-- The root or one of its sections has two members with the same known key. -/
def RootRepeats (members : List (List UInt8 × Tree)) : Prop :=
  Repeats (sectionFields.map Prod.fst) members ∨
    ∃ key name known inner, (key, .object inner) ∈ members ∧ textOf? key = some name ∧
      (name, known) ∈ sectionFields ∧ Repeats known inner

/-- Values that a field reads alike make the same of a draft under its name. -/
theorem takeMember_congr {key : List UInt8} {name : String} {field : Field Meaning Draft}
    {value value' : Tree} (named : textOf? key = some name)
    (known : fields.find? (·.name = name) = some field)
    (alike : ∀ draft, field.read draft value = field.read draft value') (draft : Draft) :
    takeMember fields draft (key, value) = takeMember fields draft (key, value') := by
  simp only [takeMember, named, Option.bind_some, takeNamed, known, alike]

/-- A value that a field never reads makes nothing of a draft under its name. -/
theorem takeMember_eq_none {key : List UInt8} {name : String} {field : Field Meaning Draft}
    {value : Tree} (named : textOf? key = some name)
    (known : fields.find? (·.name = name) = some field)
    (fails : ∀ draft, field.read draft value = none) (draft : Draft) :
    takeMember fields draft (key, value) = none := by
  simp only [takeMember, named, Option.bind_some, takeNamed, known, fails, ite_self]

/-- A field reads the objects of a section: with their members in any order and unknown ones among
them, and with none repeated. -/
structure ReadsSection (known : List String) (field : Field Meaning Draft) : Prop where
  rearranged : ∀ {members others}, AreRearranged known members others → ∀ draft,
    field.read draft (.object others) = field.read draft (.object members)
  repeats : ∀ {members}, Repeats known members → ∀ draft,
    field.read draft (.object members) = none

/-- A field whose value is a record with unordered fields reads the objects of a section. -/
theorem AreUnordered.readsSection {Whole : Type} (h : AreUnordered record.fields) (name : String)
    (get : Whole → Option α) (set : Whole → Option α → Whole) :
    ReadsSection (record.fields.map Field.name)
      (FileFormat.field name get set (Meaning.record record)) where
  rearranged rearranged _ := congrArg (Option.map _) (h.record_rearranged rearranged)
  repeats repeats _ := Option.map_eq_none_iff.mpr (h.record_repeats repeats)

/-- A configuration has a field for each section. -/
theorem exists_readsSection {name : String} {known : List String}
    (isSection : (name, known) ∈ sectionFields) :
    ∃ field, Meaning.format.configRecord.fields.find? (·.name = name) = some field ∧
      ReadsSection known field := by
  simp only [sectionFields, List.mem_cons, Prod.mk.injEq, List.not_mem_nil, or_false] at isSection
  rcases isSection with ⟨rfl, rfl⟩ | ⟨rfl, rfl⟩ | ⟨rfl, rfl⟩
  · exact ⟨_, rfl, areUnordered_endpoint.readsSection _ _ _⟩
  · exact ⟨_, rfl, areUnordered_probe.readsSection _ _ _⟩
  · exact ⟨_, rfl, areUnordered_logging.readsSection _ _ _⟩

/-- A section with its members rearranged makes the same of a configuration. -/
theorem SectionRearranged.takeMember_eq {other : List UInt8 × Tree}
    (h : SectionRearranged member other) (draft : FileFormat.ConfigDraft) :
    takeMember Meaning.format.configRecord.fields draft other =
      takeMember Meaning.format.configRecord.fields draft member := by
  cases h with
  | same => rfl
  | inside named isSection rearranged =>
    obtain ⟨field, known, reads⟩ := exists_readsSection isSection
    exact takeMember_congr named known (reads.rearranged rearranged) draft

/-- A file that is rearranged means the same configuration. -/
theorem RootRearranged.config_eq (h : RootRearranged members others) :
    Meaning.format.config (.object others) = Meaning.format.config (.object members) := by
  obtain ⟨changed, hchanged, rearranged⟩ := h
  have hmembers (draft : FileFormat.ConfigDraft) :
      changed.foldlM (takeMember Meaning.format.configRecord.fields) draft =
        members.foldlM (takeMember Meaning.format.configRecord.fields) draft := by
    clear rearranged
    induction hchanged generalizing draft with
    | nil => rfl
    | cons hmember _ ih => simp only [List.foldlM_cons, hmember.takeMember_eq, ih]
  exact (areUnordered_config.record_rearranged rearranged).trans (record_congr (hmembers _))

/-- A file that repeats a known member of the root or of a section means no configuration. -/
theorem RootRepeats.config_eq_none (h : RootRepeats members) :
    Meaning.format.config (.object members) = none := by
  rcases h with repeats | ⟨key, name, known, inner, hmem, named, isSection, repeats⟩
  · exact areUnordered_config.record_repeats repeats
  · obtain ⟨field, hfield, reads⟩ := exists_readsSection isSection
    have hfails := takeMember_eq_none named hfield (reads.repeats repeats)
    exact record_eq_none (foldlM_eq_none hfails hmem _)

end JsonFile

namespace ConfigFile

open HealthPanel.JsonFile (RootRearranged RootRepeats)

/-- A JSON file is loaded as what its tree means, if that is valid. -/
theorem load_of_tree {path contents : String} {tree : Json.Tree} {config : Config}
    (json : isYaml path = false) (h : tree.IsRenderedBy (Utf8.encode contents)) :
    load path (.ok (Utf8.encode contents)) = .ok config ↔
      JsonFile.Meaning.format.config tree = some config ∧ config.validate = .ok () := by
  have hconfig := JsonFile.toOption_config_of_tree h
  simp only [load, bind, Except.bind, Except.mapError, Utf8.decode?_encode, parse, json,
    Bool.false_eq_true, if_false]
  rw [← hconfig]
  cases JsonFile.config contents with
  | error fault => simp [Except.toOption]
  | ok found =>
    simp only [Except.toOption, Option.some.injEq]
    cases hvalid : found.validate with
    | error fault =>
      constructor
      · intro h
        cases h
      · rintro ⟨rfl, h⟩
        rw [hvalid] at h
        cases h
    | ok valid =>
      constructor
      · intro h
        obtain rfl := Except.ok.inj h
        exact ⟨rfl, hvalid⟩
      · rintro ⟨rfl, -⟩
        rfl

/-- The order of members and unknown members do not matter. A JSON file that is an object and is
loaded gives the same configuration when the members of the root and of its sections are put in
another order, any number of members with unknown keys and any values are put among them, and blanks
between tokens are changed. A file in which the root or a section repeats a known key is never
loaded. -/
theorem loads_in_any_arrangement {path contents : String} {members : List (List UInt8 × Json.Tree)}
    (json : isYaml path = false)
    (file : (Json.Tree.object members).IsRenderedBy (Utf8.encode contents)) :
    (∀ config, load path (.ok (Utf8.encode contents)) = .ok config →
      ∀ others contents', RootRearranged members others →
        (Json.Tree.object others).IsRenderedBy (Utf8.encode contents') →
        load path (.ok (Utf8.encode contents')) = .ok config) ∧
    (RootRepeats members → ∃ fault, load path (.ok (Utf8.encode contents)) = .error fault) := by
  constructor
  · intro config loads others contents' rearranged file'
    rw [load_of_tree json file] at loads
    rwa [load_of_tree json file', rearranged.config_eq]
  · intro repeats
    cases hload : load path (.ok (Utf8.encode contents)) with
    | error fault => exact ⟨fault, rfl⟩
    | ok config =>
      have hmeans := ((load_of_tree json file).mp hload).1
      rw [repeats.config_eq_none] at hmeans
      cases hmeans

/-- An empty section of the limits, the same with an unknown list before it, an unknown object in it
and blanks between some tokens, and two sections of the limits. -/
theorem loads_in_any_arrangement_nested :
    let load (contents : String) := load "panel.json" (.ok (Utf8.encode contents))
    load "\x7b\"probe\":\x7b\x7d\x7d" = .ok .default ∧
      load "\x7b \"x\":[ null ],\"probe\":\x7b \"x\":\x7b \x7d\x7d\x7d" = .ok .default ∧
      ∃ fault, load "\x7b\"probe\":\x7b\x7d,\"probe\":[]\x7d" = .error fault := by
  intro load
  let x := Utf8.encode (Json.quoted "x")
  let probe := Utf8.encode (Json.quoted "probe")
  obtain ⟨hx, xNamed⟩ := Json.textOf?_quoted "x"
  obtain ⟨hprobe, probeNamed⟩ := Json.textOf?_quoted "probe"
  have nothing := Json.isGap_nil
  have space : Json.IsGap [0x20] := fun b hb => by
    obtain rfl := List.mem_singleton.mp hb
    decide
  have comma : Json.IsToken 0x2C [0x2C] := ⟨[], [], nothing, nothing, rfl⟩
  have member {depth : Nat} {key bytes : List UInt8} {tree : Json.Tree} (isText : Json.IsText key)
      (rendered : Json.Renders depth tree bytes) :
      Json.RendersMember (Json.Renders depth) (key, tree) (key ++ ([0x3A] ++ bytes)) :=
    ⟨_, isText, ⟨_, _, ⟨[], [], nothing, nothing, rfl⟩, rendered, rfl⟩, rfl⟩
  have object {depth : Nat} {members : List (List UInt8 × Json.Tree)} {bytes : List UInt8}
      (enclosed : Json.Enclosed 0x7D (Json.RendersMember (Json.Renders depth)) members bytes) :
      Json.Renders (depth + 1) (.object members) (0x7B :: bytes) :=
    .inr (.object enclosed)
  have list {depth : Nat} {items : List Json.Tree} {bytes : List UInt8}
      (enclosed : Json.Enclosed 0x5D (Json.Renders depth) items bytes) :
      Json.Renders (depth + 1) (.list items) (0x5B :: bytes) :=
    .inr (.list enclosed)
  have empty : Json.Renders 1 (.object []) [0x7B, 0x7D] := object (.empty nothing)
  have null : Json.Renders 0 (.scalar [0x6E, 0x75, 0x6C, 0x6C]) [0x6E, 0x75, 0x6C, 0x6C] :=
    .scalar .null
  have base : (Json.Tree.object [(probe, .object [])]).IsRenderedBy
      (Utf8.encode "\x7b\"probe\":\x7b\x7d\x7d") :=
    ⟨2, [], _, [], nothing, object (.items nothing (.last (member hprobe empty)) nothing), nothing,
      by decide +kernel⟩
  have other : (Json.Tree.object [(x, .list [.scalar [0x6E, 0x75, 0x6C, 0x6C]]),
      (probe, .object [(x, .object [])])]).IsRenderedBy
      (Utf8.encode "\x7b \"x\":[ null ],\"probe\":\x7b \"x\":\x7b \x7d\x7d\x7d") := by
    have hlist : Json.Renders 2 _ _ := list (.items space (.last (.inl null)) space)
    have hsection : Json.Renders 2 _ _ :=
      object (.items space (.last (member hx (object (.empty space)))) nothing)
    exact ⟨3, [], _, [], nothing, object (.items space (.next (member hx hlist) comma
      (.last (member hprobe hsection))) nothing), nothing, by decide +kernel⟩
  have repeated : (Json.Tree.object [(probe, .object []), (probe, .list [])]).IsRenderedBy
      (Utf8.encode "\x7b\"probe\":\x7b\x7d,\"probe\":[]\x7d") :=
    ⟨2, [], _, [], nothing, object (.items nothing (.next (member hprobe empty) comma
      (.last (member hprobe (list (.empty nothing))))) nothing), nothing, by decide +kernel⟩
  have loads : load "\x7b\"probe\":\x7b\x7d\x7d" = .ok .default := by
    refine (load_of_tree isYaml_json base).mpr ⟨?_, Config.validate_default⟩
    rw [FileFormat.config, show JsonFile.Meaning.format.record = JsonFile.Meaning.record from rfl,
      JsonFile.Meaning.record, List.foldlM_cons, JsonFile.Meaning.takeMember, probeNamed]
    rfl
  have rearranged : RootRearranged [(probe, .object [])]
      [(x, .list [.scalar [0x6E, 0x75, 0x6C, 0x6C]]), (probe, .object [(x, .object [])])] := by
    refine ⟨[(probe, .object [(x, .object [])])], .cons (.inside probeNamed
      (List.mem_cons_of_mem _ List.mem_cons_self) ⟨[(x, .object [])], ?_, .refl _⟩) .nil,
      [(x, .list [.scalar [0x6E, 0x75, 0x6C, 0x6C]])], ?_, .refl _⟩
    all_goals exact List.forall_mem_singleton.mpr ⟨"x", xNamed, by decide⟩
  exact ⟨loads, (loads_in_any_arrangement isYaml_json base).1 _ loads _ _ rearranged other,
    (loads_in_any_arrangement isYaml_json repeated).2 (.inl ⟨"probe", by decide, [], _, [], _, [],
      rfl, probeNamed, probeNamed⟩)⟩

end ConfigFile

end HealthPanel
