import HealthPanel.Text.Blank
import Mathlib.Data.List.DropRight

/-!
# What trimming leaves

A text is trimmed when nothing but white space has been taken from its ends and none is left
there. There is exactly one such text, and it is empty exactly if the text is blank.
-/

namespace HealthPanel.Text

/-- Whether something holds of the characters of a text is found out one after another, not by
going through all characters that there are. -/
instance decidableForallMem (p : Char → Prop) [DecidablePred p] (text : List Char) :
    Decidable (∀ c ∈ text, p c) :=
  List.decidableBAll p text

variable {text trimmed : String}

/-- A text without the white space around it. -/
structure IsTrimmed (text trimmed : String) : Prop where
  around : ∃ front back, text.toList = front ++ trimmed.toList ++ back ∧
    (∀ c ∈ front, isBlank c = true) ∧ ∀ c ∈ back, isBlank c = true
  head : ∀ c ∈ trimmed.toList.head?, isBlank c = false
  last : ∀ c ∈ trimmed.toList.getLast?, isBlank c = false

/-- Trimming drops white space at both ends. -/
theorem toList_trim (text : String) :
    (trim text).toList = (text.toList.dropWhile isBlank).rdropWhile isBlank := by
  simp [trim, List.rdropWhile]

/-- What trimming leaves is trimmed. -/
theorem isTrimmed_trim (text : String) : IsTrimmed text (trim text) where
  around := by
    refine ⟨text.toList.takeWhile isBlank, (text.toList.dropWhile isBlank).rtakeWhile isBlank,
      ?_, fun c hc => List.mem_takeWhile_imp hc, fun c hc => List.mem_rtakeWhile_imp hc⟩
    rw [toList_trim, List.append_assoc, List.rdropWhile_append_rtakeWhile,
      List.takeWhile_append_dropWhile]
  head := by
    intro c hc
    obtain ⟨rest, hrest⟩ := List.head?_eq_some_iff.mp hc
    rw [toList_trim] at hrest
    obtain ⟨tail, htail⟩ := List.rdropWhile_prefix isBlank (text.toList.dropWhile isBlank)
    rw [hrest, List.cons_append] at htail
    have hnot := List.head_dropWhile_not isBlank (l := text.toList) (by simp [← htail])
    simpa [← htail] using hnot
  last := by
    intro c hc
    obtain ⟨rest, hrest⟩ := List.getLast?_eq_some_iff.mp hc
    rw [toList_trim] at hrest
    have hnot := List.rdropWhile_last_not isBlank (text.toList.dropWhile isBlank)
      (by simp [hrest])
    simpa [hrest] using hnot

/-- What is dropped from the end may have more of the same after it. -/
theorem rdropWhile_append_of_all {α : Type} {test : α → Bool} (letters : List α) {back : List α}
    (hback : ∀ c ∈ back, test c = true) :
    (letters ++ back).rdropWhile test = letters.rdropWhile test := by
  rw [List.rdropWhile, List.reverse_append, List.dropWhile_append_of_pos (by simpa using hback)]
  rfl

/-- White space at both ends of a trimmed text is what trimming drops. -/
theorem IsTrimmed.trim_eq (h : IsTrimmed text trimmed) : trim text = trimmed := by
  obtain ⟨⟨front, back, htext, hfront, hback⟩, hhead, hlast⟩ := h
  rw [← String.toList_inj, toList_trim, htext, List.append_assoc,
    List.dropWhile_append_of_pos hfront]
  cases hletters : trimmed.toList with
  | nil =>
    have hnothing : back.dropWhile isBlank = [] := List.dropWhile_eq_nil_iff.mpr hback
    rw [List.nil_append, hnothing, List.rdropWhile_nil]
  | cons c rest =>
    rw [hletters] at hhead hlast
    have hc : isBlank c = false := hhead c rfl
    rw [List.cons_append, List.dropWhile_cons_of_neg (by simp [hc]), ← List.cons_append,
      rdropWhile_append_of_all _ hback, List.rdropWhile_eq_self_iff]
    intro hne
    simp [hlast _ (List.getLast?_eq_some_getLast hne)]

/-- Trimming leaves exactly what is trimmed. -/
theorem trim_eq_iff : trim text = trimmed ↔ IsTrimmed text trimmed :=
  ⟨fun h => h ▸ isTrimmed_trim text, IsTrimmed.trim_eq⟩

/-- Nothing is left of a text exactly if it is blank. -/
theorem trim_eq_empty_iff : trim text = "" ↔ ∀ c ∈ text.toList, isBlank c = true := by
  rw [trim_eq_iff]
  constructor
  · intro h c hc
    obtain ⟨front, back, htext, hfront, hback⟩ := h.around
    rw [htext, String.toList_empty, List.append_nil, List.mem_append] at hc
    exact hc.elim (hfront c) (hback c)
  · intro h
    exact ⟨⟨text.toList, [], by simp, h, by simp⟩, by simp, by simp⟩

end HealthPanel.Text
