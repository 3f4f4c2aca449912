import HealthPanel.Json.Reader
import HealthPanel.Proofs.Json.Numeral

/-!
# Blanks between tokens

The reader passes over blanks to the next byte that is none, and blanks go on with no numeral.
-/

namespace HealthPanel.Json

variable {ended : Cause} {b : UInt8} {front back gap rest s : List UInt8}

/-- No bytes are blanks. -/
theorem isGap_nil : IsGap [] := fun _ hb => nomatch hb

/-- Blanks behind blanks are blanks. -/
theorem IsGap.append (hfront : IsGap front) (hback : IsGap back) : IsGap (front ++ back) :=
  fun b hb => (List.mem_append.mp hb).elim (hfront b) (hback b)

/-- Blanks are passed over. -/
theorem skipBlanks_append (isGap : IsGap gap) (hb : isBlank b = false) :
    skipBlanks (gap ++ b :: s) = b :: s := by
  rw [skipBlanks, List.dropWhile_append_of_pos isGap, List.dropWhile_cons_of_neg (by simp [hb])]

/-- The first byte behind blanks is seen. -/
theorem peek_append (isGap : IsGap gap) (hb : isBlank b = false) :
    peek ended (gap ++ b :: s) = .ok (b, s) := by
  rw [peek, skipBlanks_append isGap hb]

/-- Blanks before a colon are passed over with it. -/
theorem readColon_append (isGap : IsGap gap) : readColon (gap ++ 0x3A :: s) = .ok ((), s) := by
  simp only [readColon, peek_append isGap (show isBlank 0x3A = false by decide)]

/-- What is passed over are blanks. -/
theorem exists_gap_of_peek (h : peek ended s = .ok (b, rest)) :
    ∃ gap, IsGap gap ∧ isBlank b = false ∧ s = gap ++ b :: rest := by
  have hsplit : s.takeWhile isBlank ++ s.dropWhile isBlank = s := List.takeWhile_append_dropWhile
  rw [peek, skipBlanks] at h
  split at h
  case h_1 => cases h
  case h_2 first rest hdrop =>
    cases h
    refine ⟨s.takeWhile isBlank, fun b => List.mem_takeWhile_imp, ?_, by rw [← hdrop, hsplit]⟩
    have hnot := List.head_dropWhile_not isBlank (l := s) (by simp [hdrop])
    simpa [hdrop] using hnot

/-- A blank goes on with no numeral. -/
theorem not_numeral_of_isBlank (hb : isBlank b = true) :
    isDigit b = false ∧ b ≠ 0x2E ∧ b ≠ 0x65 ∧ b ≠ 0x45 := by
  simp only [isBlank, Bool.or_eq_true, decide_eq_true_eq] at hb
  rcases hb with ((rfl | rfl) | rfl) | rfl <;> decide

/-- A digit is no blank. -/
theorem isBlank_of_isDigit (h : isDigit b) : isBlank b = false := by
  rw [← Bool.not_eq_true]
  intro hblank
  exact Bool.false_ne_true ((not_numeral_of_isBlank hblank).1.symm.trans h)

/-- Blanks end a numeral. -/
theorem IsGap.endsNumeral (isGap : IsGap gap) : EndsNumeral gap :=
  fun b hb => not_numeral_of_isBlank (isGap b (List.mem_of_mem_head? hb))

/-- A comma or a closing byte ends a numeral, and so do blanks before it. -/
theorem IsGap.endsNumeral_append (isGap : IsGap gap) (hb : b = 0x2C ∨ b = 0x5D ∨ b = 0x7D) :
    EndsNumeral (gap ++ b :: s) := by
  intro first hfirst
  cases gap with
  | nil =>
    obtain rfl : b = first := Option.some.inj hfirst
    rcases hb with rfl | rfl | rfl <;> decide
  | cons blank gap =>
    obtain rfl : blank = first := Option.some.inj hfirst
    exact not_numeral_of_isBlank (isGap blank List.mem_cons_self)

/-! ## Ends of texts -/

/-- Behind blanks the end is found. -/
theorem IsGap.readEnd_eq (isGap : IsGap gap) : readEnd gap = .ok ((), []) := by
  have hskip : skipBlanks gap = [] := List.dropWhile_eq_nil_iff.mpr isGap
  rw [readEnd, hskip]

/-- A text holds what is read of it if only blanks are left. -/
theorem IsGap.toOption_readAll {α : Type} {reader : Reader α} {outcome : Option α}
    {text : List UInt8} (isGap : IsGap gap)
    (h : (reader text).toOption = outcome.map (·, gap)) :
    (readAll reader text).toOption = outcome := by
  rw [readAll]
  cases hread : reader text with
  | error fault =>
    rw [hread] at h
    exact (Option.map_eq_none_iff.mp h.symm).symm
  | ok read =>
    rw [hread] at h
    obtain ⟨value, rfl, rfl⟩ := Option.map_eq_some_iff.mp h.symm
    simp only [isGap.readEnd_eq]
    rfl

end HealthPanel.Json
