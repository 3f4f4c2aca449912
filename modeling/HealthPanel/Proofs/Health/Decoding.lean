import HealthPanel.Health.Payload
import HealthPanel.Proofs.Json.Acceptance

/-!
# Which bodies have a payload

The body of a successful health check has a payload exactly if it is a document of the grammar of
JSON, and the payload is what the document spells.
-/

namespace HealthPanel.Payload

open HealthPanel.Json (Numeral SpellsDocument)

variable {payload : Payload} {bytes : List UInt8}

/-- Bytes are read as a payload exactly if they spell its document. -/
theorem ofBytes_eq_ok_iff :
    ofBytes bytes = .ok payload ↔ SpellsDocument Numeral.Means payload.document bytes := by
  rw [ofBytes, Json.map_eq_ok_iff, ← Json.Value.ofBytes_eq_ok_iff]
  constructor
  · rintro ⟨document, hread, rfl⟩
    exact hread
  · exact fun hread => ⟨payload.document, hread, rfl⟩

/-- A body is accepted exactly if it is a document of the grammar whose numerals can be read: one
value with blanks around it, with lists and objects that nest at most 127 deep; and its payload is
the value that is spelled. In particular every document is accepted all of whose numerals are
integers that fit 64 bits, each as this integer. -/
theorem ofBytes_accepts_documents (bytes : List UInt8) :
    (∀ payload, ofBytes bytes = .ok payload ↔
      SpellsDocument Numeral.Means payload.document bytes) ∧
    ∀ document, SpellsDocument Numeral.MeansInteger document bytes →
      ofBytes bytes = .ok ⟨document⟩ := by
  refine ⟨fun _ => ofBytes_eq_ok_iff, fun document h => ofBytes_eq_ok_iff.mpr ?_⟩
  obtain ⟨front, inner, back, isFront, spelled, isBack, rfl⟩ := h
  exact ⟨front, inner, back, isFront, spelled.mono fun _ _ => Numeral.MeansInteger.means, isBack,
    rfl⟩

/-- Of two members with the same key, in an object with a blank behind its comma, the last is
kept. -/
theorem ofBytes_accepts_documents_repeated :
    let bytes := Utf8.encode "\x7b\"a\":1, \"a\":[-2]\x7d"
    let document : Json.Value := .object [("a", .list [.number (.integer (-2))])]
    SpellsDocument Numeral.MeansInteger document bytes ∧ ofBytes bytes = .ok ⟨document⟩ := by
  intro bytes document
  have hkey : Json.SpellsText "a" [0x22, 0x61, 0x22] :=
    ⟨[0x61], ⟨[[0x61]], .cons (.itself (by decide) (by decide) (by decide)) .nil, rfl⟩, rfl⟩
  have hcolon : Json.IsToken 0x3A [0x3A] := ⟨[], [], Json.isGap_nil, Json.isGap_nil, rfl⟩
  have hcomma : Json.IsToken 0x2C [0x2C, 0x20] :=
    ⟨[], [0x20], Json.isGap_nil, by simp [Json.IsGap, Json.isBlank], rfl⟩
  have hone : Json.SpellsValue Numeral.MeansInteger 126 (.number (.integer 1)) [0x31] := by
    have hmeans : Numeral.MeansInteger ⟨false, [1], [], none⟩ (.integer 1) := .unsigned (by decide)
    refine Json.SpellsScalar.spellsValue (.number ?_ hmeans)
    exact ⟨[0x31], [], [], ⟨⟨by simp, by simp [Json.isDigit], rfl⟩, by simp⟩, .absent,
      .absent, rfl⟩
  have htwo : Json.SpellsValue Numeral.MeansInteger 125 (.number (.integer (-2))) [0x2D, 0x32] := by
    have hmeans : Numeral.MeansInteger ⟨true, [2], [], none⟩ (.integer (-2)) :=
      .negative (by decide) (by decide)
    refine Json.SpellsScalar.spellsValue (.number ?_ hmeans)
    exact ⟨[0x32], [], [], ⟨⟨by simp, by simp [Json.isDigit], rfl⟩, by simp⟩, .absent,
      .absent, rfl⟩
  have hlist : Json.SpellsValue Numeral.MeansInteger 126 (.list [.number (.integer (-2))])
      [0x5B, 0x2D, 0x32, 0x5D] :=
    .inr (.list (.items Json.isGap_nil (.last htwo) Json.isGap_nil))
  have hmembers : Json.Separated (Json.SpellsMember (Json.SpellsValue Numeral.MeansInteger 126))
      [("a", .number (.integer 1)), ("a", .list [.number (.integer (-2))])] _ :=
    .next ⟨_, _, hkey, ⟨_, _, hcolon, hone, rfl⟩, rfl⟩ hcomma
      (.last ⟨_, _, hkey, ⟨_, _, hcolon, hlist, rfl⟩, rfl⟩)
  have hspelled : SpellsDocument Numeral.MeansInteger document bytes :=
    ⟨[], bytes, [], Json.isGap_nil,
      .inr (.object (.items Json.isGap_nil hmembers Json.isGap_nil) (Json.keeps_foldl _)),
      Json.isGap_nil, rfl⟩
  exact ⟨hspelled, (ofBytes_accepts_documents bytes).2 document hspelled⟩

end HealthPanel.Payload
