import HealthPanel.Proofs.Report.Document
import HealthPanel.Proofs.Time.Timestamp

/-!
# The time of the check in a report's document

The document of a report has the time of the check as a timestamp, whatever else it tells. The
timestamp denotes the second and the nanosecond of the check, so that two reports have the same
timestamp only if their checks were made at the same instant.
-/

namespace HealthPanel.Report

open Json (Value)

/-- The time of the check as it stands in the text of a document, if it does. -/
def checkedAtIn? (text : String) : Option String :=
  match Value.ofBytes (Utf8.encode text) with
  | .ok document => (document.get? "checked_at").bind Value.text?
  | .error _ => none

section

variable (status : Option Status) (checkedAt : Option Instant) (docsUrl : String)

/-- The time of the check stands in the document of a report as its timestamp, whether or not the
document is written over several lines. -/
theorem checkedAtIn?_ofStatus :
    checkedAtIn? (ofStatus status checkedAt docsUrl).toJson.compact =
        checkedAt.map Instant.timestamp ∧
      checkedAtIn? (ofStatus status checkedAt docsUrl).toJson.pretty =
        checkedAt.map Instant.timestamp := by
  obtain ⟨kept, hkeeps⟩ : ∃ kept, Json.Keeps (membersOf (fields status checkedAt docsUrl)) kept :=
    ⟨_, Json.keeps_foldl _⟩
  have hmember : ((Value.object kept).get? "checked_at").bind Value.text? =
      checkedAt.map Instant.timestamp := by
    rw [Value.get?, lookup_of_keeps status checkedAt docsUrl hkeeps, told?]
    cases checkedAt <;> rfl
  obtain ⟨hcompact, hpretty⟩ :=
    Json.ofBytes_encode_texts hkeeps (forall_membersOf_text status checkedAt docsUrl)
  rw [toJson_ofStatus, checkedAtIn?, hcompact, checkedAtIn?, hpretty]
  exact ⟨hmember, hmember⟩

end

/-- The timestamps of instants denote the instants. -/
theorem bind_map_timestamp {checkedAt : Option Instant}
    (valid : ∀ time ∈ checkedAt, Instant.IsValid time.second time.nanosecond) :
    (checkedAt.map Instant.timestamp).bind DateTime.instant? = checkedAt := by
  cases checkedAt with
  | none => rfl
  | some time =>
    rw [Option.map_some, Option.bind_some]
    exact DateTime.instant?_timestamp (valid time (Option.mem_some_self time))

/-- The time of the check in a report's document, read as a date with a time of day, is just the
instant of the check. So the documents of two reports, whatever else they tell, have the same text
for it exactly if both checks were made at the same instant, or neither has been made yet. -/
theorem checked_at_tells_instant {first second : Option Instant}
    (hfirst : ∀ time ∈ first, Instant.IsValid time.second time.nanosecond)
    (hsecond : ∀ time ∈ second, Instant.IsValid time.second time.nanosecond)
    (status other : Option Status) (docsUrl elsewhere : String) :
    let document := (ofStatus status first docsUrl).toJson
    let another := (ofStatus other second elsewhere).toJson
    (checkedAtIn? document.compact).bind DateTime.instant? = first ∧
      (checkedAtIn? document.pretty).bind DateTime.instant? = first ∧
      (checkedAtIn? document.compact = checkedAtIn? another.compact ↔ first = second) ∧
      (checkedAtIn? document.pretty = checkedAtIn? another.pretty ↔ first = second) := by
  intro document another
  obtain ⟨hcompact, hpretty⟩ := checkedAtIn?_ofStatus status first docsUrl
  obtain ⟨hcompact', hpretty'⟩ := checkedAtIn?_ofStatus other second elsewhere
  have hread := bind_map_timestamp hfirst
  have hsame : first.map Instant.timestamp = second.map Instant.timestamp ↔ first = second := by
    constructor
    · intro htexts
      rw [← hread, htexts, bind_map_timestamp hsecond]
    · exact congrArg (Option.map Instant.timestamp)
  refine ⟨?_, ?_, ?_, ?_⟩
  · rw [hcompact, hread]
  · rw [hpretty, hread]
  · rw [hcompact, hcompact', hsame]
  · rw [hpretty, hpretty', hsame]

/-- A leap second before 1970, and the second after it. -/
theorem checked_at_tells_instant_leap :
    let leap : Instant := ⟨-1, 1_500_000_000⟩
    let next : Instant := ⟨0, 500_000_000⟩
    let document := (ofStatus (some .error) (some leap) "http://localhost:8000/docs").toJson
    let another := (ofStatus none (some next) "").toJson
    Instant.IsValid leap.second leap.nanosecond ∧ Instant.IsValid next.second next.nanosecond ∧
      leap.timestamp = "1969-12-31T23:59:60.500Z" ∧
      next.timestamp = "1970-01-01T00:00:00.500Z" ∧
      (checkedAtIn? document.compact).bind DateTime.instant? = some leap ∧
      (checkedAtIn? document.pretty).bind DateTime.instant? = some leap ∧
      checkedAtIn? document.compact ≠ checkedAtIn? another.compact ∧
      checkedAtIn? document.pretty ≠ checkedAtIn? another.pretty := by
  intro leap next document another
  have hleap : ∀ time ∈ some leap, Instant.IsValid time.second time.nanosecond := by
    rintro time ⟨⟩
    decide
  have hnext : ∀ time ∈ some next, Instant.IsValid time.second time.nanosecond := by
    rintro time ⟨⟩
    decide
  have hne : some leap ≠ some next := by decide
  obtain ⟨hcompact, hpretty, hcompacts, hpretties⟩ :=
    checked_at_tells_instant hleap hnext (some .error) none "http://localhost:8000/docs" ""
  exact ⟨hleap leap rfl, hnext next rfl, by decide +kernel, by decide +kernel, hcompact, hpretty,
    mt hcompacts.mp hne, mt hpretties.mp hne⟩

end HealthPanel.Report
