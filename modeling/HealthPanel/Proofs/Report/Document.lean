import HealthPanel.Proofs.Json.Pretty
import HealthPanel.Proofs.Report.Lines

/-!
# The document of a report

A report is written as a document with or without line breaks, and either is read back as the same
object. Its members are texts, each as the report has it, and what the report has nothing of is left
out. The document says all that the lines of the report say.
-/

namespace HealthPanel.Report

open Json (Value Keeps)

/-! ## Members that may be left out -/

section

variable {fields : List (String × Option String)} {key : String}

/-- The members that fields are written as. -/
def membersOf (fields : List (String × Option String)) : List (String × Value) :=
  fields.flatMap fun field => ifPresent field.1 field.2

/-- A member is there exactly if its text is told. -/
theorem mem_ifPresent_iff {name : String} {told : Option String} {member : String × Value} :
    member ∈ ifPresent name told ↔ ∃ text, told = some text ∧ member = (name, .text text) := by
  cases told <;> simp [ifPresent]

/-- The members of a document are the fields that have a text. -/
theorem mem_membersOf_iff {value : Value} :
    (key, value) ∈ membersOf fields ↔ ∃ text, (key, some text) ∈ fields ∧ .text text = value := by
  simp only [membersOf, List.mem_flatMap, mem_ifPresent_iff, Prod.exists, Prod.mk.injEq]
  constructor
  · rintro ⟨name, told, hfield, text, rfl, rfl, rfl⟩
    exact ⟨text, hfield, rfl⟩
  · rintro ⟨text, hfield, rfl⟩
    exact ⟨key, some text, hfield, text, rfl, rfl, rfl⟩

/-- Fields with names of their own are written as members with keys of their own. -/
theorem distinct_membersOf (distinct : fields.Pairwise fun a b => a.1 ≠ b.1) :
    (membersOf fields).Pairwise fun a b => a.1 ≠ b.1 := by
  rw [membersOf, List.pairwise_flatMap]
  constructor
  · rintro ⟨name, _ | text⟩ _
    · exact .nil
    · exact List.pairwise_singleton _ _
  · refine distinct.imp fun hne member hmember other hother => ?_
    obtain ⟨_, _, rfl⟩ := mem_ifPresent_iff.mp hmember
    obtain ⟨_, _, rfl⟩ := mem_ifPresent_iff.mp hother
    exact hne

end

/-! ## What a report tells -/

variable (status : Option Status) (checkedAt : Option Instant) (docsUrl : String)

/-- The names under which a report tells something. -/
def names : List String :=
  ["state", "indicator", "version", "environment", "city", "checked_at", "docs_url"]

/-- What the report on a status should tell under a name. -/
def told? (name : String) : Option String :=
  let payload? := status.bind Status.payload?
  match name with
  | "state" => some (status.elim "checking" Status.label)
  | "indicator" => some (status.elim Status.checkingIndicator Status.indicator)
  | "version" => payload?.bind Payload.version
  | "environment" => payload?.bind Payload.environment
  | "city" => payload?.map fun payload => payload.city.getD Details.defaultCity
  | "checked_at" => checkedAt.map Instant.timestamp
  | "docs_url" => some docsUrl
  | _ => none

/-- Under other names nothing is told. -/
theorem told?_of_notMem {name : String} (h : name ∉ names) :
    told? status checkedAt docsUrl name = none := by
  unfold told?
  split
  case h_8 => rfl
  all_goals exact absurd (by decide) h

/-- What a report tells under each of its names. -/
def fields : List (String × Option String) :=
  names.map fun name => (name, told? status checkedAt docsUrl name)

/-- No two fields have one name. -/
theorem distinct_fields : (fields status checkedAt docsUrl).Pairwise fun a b => a.1 ≠ b.1 := by
  have hnames : names.Nodup := by decide
  exact List.pairwise_map.mpr hnames

/-- A field has the text that is told under its name. -/
theorem mem_fields_iff {name text : String} :
    (name, some text) ∈ fields status checkedAt docsUrl ↔
      told? status checkedAt docsUrl name = some text := by
  simp only [fields, List.mem_map, Prod.mk.injEq]
  constructor
  · rintro ⟨_, _, rfl, htold⟩
    exact htold
  · intro htold
    have hname : name ∈ names := by
      by_contra hnot
      rw [told?_of_notMem status checkedAt docsUrl hnot] at htold
      cases htold
    exact ⟨name, hname, rfl, htold⟩

/-- The document of a report has the fields that have a text. -/
theorem toJson_ofStatus :
    (ofStatus status checkedAt docsUrl).toJson =
      .object (membersOf (fields status checkedAt docsUrl)) := by
  simp only [toJson, ofStatus, membersOf, fields, names, List.map_cons, List.map_nil,
    List.flatMap_cons, List.flatMap_nil, told?]
  rcases status with _ | _ | _ | _ <;> simp [ifPresent, Details.ofPayload, Status.payload?]

/-- An object keeps of a report what the report tells under each name. -/
theorem lookup_of_keeps {kept : List (String × Value)}
    (keeps : Keeps (membersOf (fields status checkedAt docsUrl)) kept) (name : String) :
    kept.lookup name = (told? status checkedAt docsUrl name).map .text := by
  have hdistinct := distinct_membersOf (distinct_fields status checkedAt docsUrl)
  have hreverse := List.pairwise_reverse.mpr (hdistinct.imp Ne.symm)
  refine Option.ext fun value => ?_
  rw [keeps.2, lookup_eq_some_iff_mem hreverse, List.mem_reverse, mem_membersOf_iff]
  simp only [mem_fields_iff, Option.map_eq_some_iff]

/-! ## The lines from the document -/

/-- The lines of a report, made of nothing but its document. -/
def textOf (document : Value) : String :=
  let shown (name : String) : String := ((document.get? name).bind Value.text?).getD ""
  labelledText <|
    [("API Status: ", shown "indicator")]
      ++ (if shown "state" = "connected" then
          [("Version: ", shown "version"), ("Environment: ", shown "environment"),
            ("City: ", shown "city")]
        else [])
      ++ [("API Documentation: ", shown "docs_url")]

/-- A document that has what a report tells makes its text. -/
theorem textOf_eq {document : Value}
    (h : ∀ name, document.get? name = (told? status checkedAt docsUrl name).map .text) :
    textOf document = (ofStatus status checkedAt docsUrl).text := by
  have hshown (name : String) : ((document.get? name).bind Value.text?).getD "" =
      (told? status checkedAt docsUrl name).getD "" := by
    rw [h]
    cases told? status checkedAt docsUrl name <;> rfl
  rw [text_ofStatus]
  simp only [textOf, hshown]
  rcases status with _ | _ | _ | _ <;> rfl

/-- All members of a report are texts. -/
theorem forall_membersOf_text : ∀ member ∈ membersOf (fields status checkedAt docsUrl),
    ∃ text, member.2 = .text text := by
  rintro ⟨name, value⟩ hmember
  obtain ⟨text, -, rfl⟩ := mem_membersOf_iff.mp hmember
  exact ⟨text, rfl⟩

/-- A report without line breaks and over several lines is read back as the same object, sorted by
key. It has a text for everything that the report tells and nothing else, each text as it was, and
the text of the report can be made of it. -/
theorem document_tells_text :
    ∃ members, Value.ofBytes (Utf8.encode (ofStatus status checkedAt docsUrl).toJson.compact) =
        .ok (.object members) ∧
      Value.ofBytes (Utf8.encode (ofStatus status checkedAt docsUrl).toJson.pretty) =
        .ok (.object members) ∧
      members.Pairwise (fun a b => a.1 < b.1) ∧
      (∀ name, members.lookup name = (told? status checkedAt docsUrl name).map .text) ∧
      textOf (.object members) = (ofStatus status checkedAt docsUrl).text := by
  have hkeeps := Json.keeps_foldl (membersOf (fields status checkedAt docsUrl))
  have hget := lookup_of_keeps status checkedAt docsUrl hkeeps
  obtain ⟨hcompact, hpretty⟩ :=
    Json.ofBytes_encode_texts hkeeps (forall_membersOf_text status checkedAt docsUrl)
  rw [← toJson_ofStatus] at hcompact hpretty
  exact ⟨_, hcompact, hpretty, hkeeps.1, hget, textOf_eq status checkedAt docsUrl hget⟩

end HealthPanel.Report
