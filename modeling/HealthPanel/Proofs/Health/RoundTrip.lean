import HealthPanel.Health.Payload
import HealthPanel.Proofs.Json.Writing

/-!
# Writing a payload and reading it back

A payload without doubles is written as one line, which is a body with the same payload. So the
written line stands for the payload: two payloads agree exactly if their lines are the same.
-/

namespace HealthPanel.Payload

open HealthPanel.Json (map_eq_ok_iff)

/-- The payload as one line of text. -/
def line (payload : Payload) : String :=
  payload.document.compact

/-- The line of a payload without doubles is read as this payload. -/
theorem ofBytes_encode_line {bytes : List UInt8} {payload : Payload}
    (h : ofBytes bytes = .ok payload) (exact : payload.document.IsExact) :
    ofBytes (Utf8.encode payload.line) = .ok payload := by
  rw [ofBytes, map_eq_ok_iff] at h ⊢
  obtain ⟨document, hread, rfl⟩ := h
  exact ⟨document, Json.Value.ofBytes_encode_compact hread exact, rfl⟩

/-- The line of a payload without doubles is itself a body that is accepted, with an equal payload
that has the same line. Hence two such payloads are equal exactly if they have the same line. -/
theorem line_is_read_back {bytes : List UInt8} {payload : Payload}
    (h : ofBytes bytes = .ok payload) (exact : payload.document.IsExact) :
    (∃ again, ofBytes (Utf8.encode payload.line) = .ok again ∧ again.agrees payload = true ∧
      again.line = payload.line) ∧
    ∀ otherBytes other, ofBytes otherBytes = .ok other → other.document.IsExact →
      (payload.agrees other = true ↔ payload.line = other.line) := by
  have hagrees (other : Payload) : payload.agrees other = true ↔ payload = other := by
    rw [agrees, exact.agrees_iff]
    exact ⟨congrArg mk, congrArg document⟩
  refine ⟨⟨payload, ofBytes_encode_line h exact, (hagrees payload).mpr rfl, rfl⟩, ?_⟩
  intro otherBytes other hother exactOther
  rw [hagrees]
  constructor
  · rintro rfl
    rfl
  · intro hline
    have hread := ofBytes_encode_line h exact
    rw [hline, ofBytes_encode_line hother exactOther] at hread
    exact (Except.ok.inj hread).symm

/-- Of a repeated key the last is written, in the order of the keys, and of two spellings of a
character the shorter. -/
theorem line_is_read_back_respelled :
    let bytes := Utf8.encode (" \x7b\"b\":true, \"a\":[18446744073709551615, " ++
      "-9223372036854775808],\"b\":\"\\u00e9\\n\"\x7d")
    let payload : Payload := ⟨.object [
      ("a", .list [.number (.integer 18446744073709551615),
        .number (.integer (-9223372036854775808))]),
      ("b", .text "é\n")]⟩
    ofBytes bytes = .ok payload ∧ payload.document.IsExact ∧
      payload.line = "\x7b\"a\":[18446744073709551615,-9223372036854775808]," ++
        "\"b\":\"é\\n\"\x7d" ∧
      (∃ again, ofBytes (Utf8.encode payload.line) = .ok again ∧ again.agrees payload = true ∧
        again.line = payload.line) ∧
      ∀ otherBytes other, ofBytes otherBytes = .ok other → other.document.IsExact →
        (payload.agrees other = true ↔ payload.line = other.line) := by
  intro bytes payload
  have hread : ofBytes bytes = .ok payload := rfl
  have hexact : payload.document.IsExact := by
    refine .object ?_
    rintro member (_ | ⟨_, _ | ⟨_, ⟨⟩⟩⟩)
    · refine .list ?_
      rintro item (_ | ⟨_, _ | ⟨_, ⟨⟩⟩⟩)
      · exact .integer _
      · exact .integer _
    · exact .text _
  exact ⟨hread, hexact, by rfl, line_is_read_back hread hexact⟩

end HealthPanel.Payload
