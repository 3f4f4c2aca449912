import HealthPanel.Proofs.Json.Acceptance

/-!
# Documents that are cut short

No beginning of a document is a document, unless only blanks have been cut off or the document is a
number. For the reader takes any other value without looking at what comes behind it: had it found
one at the front of the text, it would have found the same one in the whole text, and would have
left over what was cut off.
-/

namespace HealthPanel.Json

variable {depth : Nat} {value : Value} {b : UInt8} {bytes gap rest s cut later : List UInt8}

/-- Where a numeral may begin, nothing but a number is read. -/
theorem exists_number_of_readValue (hb : b = 0x2D ∨ isDigit b) (isGap : IsGap gap)
    (h : readValue depth (gap ++ b :: s) = .ok (value, rest)) :
    ∃ number, value = .number number := by
  obtain ⟨hblank, hnull, htrue, hfalse, hquote, hlist, hobject, -, -⟩ :=
    not_other_of_sign_or_digit hb
  unfold readValue at h
  simp only [peek_append isGap hblank, if_pos hb] at h
  obtain ⟨⟨number, left⟩, -, htaken⟩ := map_eq_ok_iff.mp h
  exact ⟨number, (Prod.mk.inj htaken).1.symm⟩

/-- A number is spelled by what begins like a numeral. -/
theorem SpellsValue.exists_head {number : Number}
    (h : SpellsValue Numeral.Means depth (.number number) bytes) :
    ∃ b tail, bytes = b :: tail ∧ (b = 0x2D ∨ isDigit b) := by
  have hscalar : SpellsScalar Numeral.Means (.number number) bytes := by
    cases depth with
    | zero => exact h
    | succ depth =>
      rcases h with scalar | container
      · exact scalar
      · cases container
  cases hscalar with
  | number spelled => exact spelled.exists_head

/-- A text that begins with a number, blanks apart, holds no other document. -/
theorem exists_number_of_begins {number : Number} (isGap : IsGap gap)
    (spelled : SpellsValue Numeral.Means depth (.number number) bytes)
    (h : readValue depth (gap ++ (bytes ++ s)) = .ok (value, rest)) :
    ∃ number, value = .number number := by
  obtain ⟨b, tail, rfl, hb⟩ := spelled.exists_head
  exact exists_number_of_readValue hb isGap h

/-- What stands before the last byte of a document that is no blank is no document, unless the
document is a number. -/
theorem Value.exists_fault_of_cut (h : Value.ofBytes (cut ++ later) = .ok value)
    (notNumber : ∀ number, value ≠ .number number) (short : ¬IsGap later) :
    ∃ fault, Value.ofBytes cut = .error fault := by
  cases hcut : Value.ofBytes cut with
  | error fault => exact ⟨fault, rfl⟩
  | ok other =>
    refine absurd ?_ short
    obtain ⟨front, inner, back, isFront, spelled, isBack, hwhole⟩ := Value.ofBytes_eq_ok_iff.mp h
    obtain ⟨front', inner', back', isFront', spelled', -, rfl⟩ := Value.ofBytes_eq_ok_iff.mp hcut
    rw [List.append_assoc, List.append_assoc] at hwhole
    have hread : readValue 127 (front' ++ (inner' ++ (back' ++ later))) = .ok (value, back) := by
      rw [hwhole]
      exact readsAll 127 value inner spelled front back isFront fun _ => isBack.endsNumeral
    have ends : EndsBefore other (back' ++ later) := by
      rintro ⟨number, rfl⟩
      obtain ⟨number', hnumber⟩ := exists_number_of_begins isFront' spelled' hread
      exact absurd hnumber (notNumber number')
    -- What stands behind a value that is no number does not matter to the reader.
    have hsame := readsAll 127 other inner' spelled' front' (back' ++ later) isFront' ends
    rw [hread] at hsame
    have hback : back = back' ++ later := (Prod.mk.inj (Except.ok.inj hsame)).2
    intro b hb
    exact isBack b (hback ▸ List.mem_append_right back' hb)

end HealthPanel.Json
