import HealthPanel.Url.Parser
import Mathlib.Data.List.TakeWhile

/-!
# Splitting texts

Where a text is split is told by its characters, so the pieces of a longer text follow from those
of the text in front of it.
-/

namespace HealthPanel

/-! ## Where something is left -/

section Left

variable {α : Type} {test : α → Bool} {front : List α}

/-- What is dropped ends in the front part, if anything of it is left. -/
theorem dropWhile_append_of_ne_nil (h : front.dropWhile test ≠ []) (more : List α) :
    (front ++ more).dropWhile test = front.dropWhile test ++ more := by
  rw [List.dropWhile_append, if_neg (by simpa using h)]

/-- What is taken ends in the front part, if anything of it is left. -/
theorem takeWhile_append_of_ne_nil (h : front.dropWhile test ≠ []) (more : List α) :
    (front ++ more).takeWhile test = front.takeWhile test := by
  have hlength : (front.takeWhile test).length ≠ front.length := by
    have hboth := congrArg List.length (List.takeWhile_append_dropWhile (p := test) (l := front))
    have hpos := List.length_pos_iff.mpr h
    rw [List.length_append] at hboth
    omega
  rw [List.takeWhile_append, if_neg hlength]

end Left

namespace Url

variable {isMark : Char → Bool} {text before after more : List Char} {c mark : Char}

/-! ## Marks -/

/-- A text without a mark is not split at the first one. -/
theorem splitAtFirst_of_none (h : ∀ c ∈ text, isMark c = false) :
    splitAtFirst isMark text = (text, none) := by
  have hdrop : text.dropWhile (!isMark ·) = [] := List.dropWhile_eq_nil_iff.mpr (by simpa using h)
  rw [splitAtFirst, hdrop]

/-- A text is split at its first mark. -/
theorem splitAtFirst_of_mark (h : ∀ c ∈ before, isMark c = false) (hmark : isMark mark = true)
    (after : List Char) :
    splitAtFirst isMark (before ++ mark :: after) = (before, some after) := by
  have hbefore : ∀ c ∈ before, (!isMark c) = true := by simpa using h
  rw [splitAtFirst, List.dropWhile_append_of_pos hbefore, List.takeWhile_append_of_pos hbefore]
  simp [hmark]

/-- A text has no mark, or is split at its first one. -/
theorem splitAtFirst_cases (isMark : Char → Bool) (text : List Char) :
    ((∀ c ∈ text, isMark c = false) ∧ splitAtFirst isMark text = (text, none)) ∨
      ∃ before mark after, text = before ++ mark :: after ∧ (∀ c ∈ before, isMark c = false) ∧
        isMark mark = true ∧ splitAtFirst isMark text = (before, some after) := by
  by_cases hnone : ∀ c ∈ text, isMark c = false
  · exact .inl ⟨hnone, splitAtFirst_of_none hnone⟩
  · right
    have hdrop : text.dropWhile (!isMark ·) ≠ [] := by
      rw [Ne, List.dropWhile_eq_nil_iff]
      simpa using hnone
    obtain ⟨mark, after, hafter⟩ := List.exists_cons_of_ne_nil hdrop
    have hbefore : ∀ c ∈ text.takeWhile (!isMark ·), isMark c = false := by
      intro c hc
      simpa using List.mem_takeWhile_imp hc
    have hmark : isMark mark = true := by
      simpa [hafter] using List.head_dropWhile_not (!isMark ·) hdrop
    have hsplit := splitAtFirst_of_mark hbefore hmark after
    rw [← hafter, List.takeWhile_append_dropWhile] at hsplit
    refine ⟨_, mark, after, ?_, hbefore, hmark, hsplit⟩
    rw [← hafter, List.takeWhile_append_dropWhile]

/-- Characters that are no marks stay behind what is left of a text. -/
theorem splitAtFirst_append (h : ∀ c ∈ more, isMark c = false) (text : List Char) :
    splitAtFirst isMark (text ++ more) =
      match splitAtFirst isMark text with
      | (before, some after) => (before, some (after ++ more))
      | (before, none) => (before ++ more, none) := by
  rcases splitAtFirst_cases isMark text with
    ⟨hnone, hsplit⟩ | ⟨before, mark, after, rfl, hbefore, hmark, hsplit⟩
  · rw [hsplit, splitAtFirst_of_none fun c hc => (List.mem_append.mp hc).elim (hnone c) (h c)]
  · rw [hsplit, List.append_assoc, List.cons_append, splitAtFirst_of_mark hbefore hmark]

/-- A text without a mark is not split at the last one. -/
theorem splitAtLast_of_none (h : ∀ c ∈ text, isMark c = false) :
    splitAtLast isMark text = (none, text) := by
  have hreverse : ∀ c ∈ text.reverse, isMark c = false := by simpa using h
  simp [splitAtLast, splitAtFirst_of_none hreverse]

/-- A text is split at its last mark. -/
theorem splitAtLast_of_mark (h : ∀ c ∈ after, isMark c = false) (hmark : isMark mark = true)
    (before : List Char) :
    splitAtLast isMark (before ++ mark :: after) = (some before, after) := by
  have hreverse : ∀ c ∈ after.reverse, isMark c = false := by simpa using h
  simp [splitAtLast, splitAtFirst_of_mark hreverse hmark]

/-- A text has no mark, or is split at its last one. -/
theorem splitAtLast_cases (isMark : Char → Bool) (text : List Char) :
    ((∀ c ∈ text, isMark c = false) ∧ splitAtLast isMark text = (none, text)) ∨
      ∃ before mark after, text = before ++ mark :: after ∧ (∀ c ∈ after, isMark c = false) ∧
        isMark mark = true ∧ splitAtLast isMark text = (some before, after) := by
  rcases splitAtFirst_cases isMark text.reverse with
    ⟨h, -⟩ | ⟨after, mark, before, htext, h, hmark, -⟩
  · have hnone : ∀ c ∈ text, isMark c = false := by simpa using h
    exact .inl ⟨hnone, splitAtLast_of_none hnone⟩
  · have htext' : text = before.reverse ++ mark :: after.reverse := by
      simpa using congrArg List.reverse htext
    have hafter : ∀ c ∈ after.reverse, isMark c = false := by simpa using h
    refine .inr ⟨_, mark, _, htext', hafter, hmark, ?_⟩
    rw [htext', splitAtLast_of_mark hafter hmark]

/-- Characters that are no marks stay behind what comes after the last mark. -/
theorem splitAtLast_append (h : ∀ c ∈ more, isMark c = false) (text : List Char) :
    splitAtLast isMark (text ++ more) =
      ((splitAtLast isMark text).1, (splitAtLast isMark text).2 ++ more) := by
  rcases splitAtLast_cases isMark text with
    ⟨hnone, hsplit⟩ | ⟨before, mark, after, rfl, hafter, hmark, hsplit⟩
  · rw [hsplit, splitAtLast_of_none fun c hc => (List.mem_append.mp hc).elim (hnone c) (h c)]
  · rw [hsplit, List.append_assoc, List.cons_append,
      splitAtLast_of_mark (fun c hc => (List.mem_append.mp hc).elim (hafter c) (h c)) hmark before]

/-- What stands behind the last mark was there before. -/
theorem mem_of_mem_splitAtLast (h : c ∈ (splitAtLast isMark text).2) : c ∈ text := by
  rcases splitAtLast_cases isMark text with ⟨-, hsplit⟩ | ⟨before, mark, after, rfl, -, -, hsplit⟩
  · rwa [hsplit] at h
  · rw [hsplit] at h
    exact List.mem_append_right _ (List.mem_cons_of_mem _ h)

/-! ## Ports -/

/-- What stands for the port was there before. -/
theorem mem_of_mem_splitPort {inBrackets : Bool}
    (h : c ∈ (splitPort inBrackets text).2.getD []) : c ∈ text := by
  induction text generalizing inBrackets with
  | nil => simp [splitPort] at h
  | cons d rest ih =>
    rw [splitPort] at h
    split at h
    case isTrue => exact List.mem_cons_of_mem _ h
    case isFalse => exact List.mem_cons_of_mem _ (ih h)

/-- Without a colon and brackets there is no port. -/
theorem splitPort_of_none (h : ∀ c ∈ text, c ∉ ":[]".toList) (inBrackets : Bool) :
    splitPort inBrackets text = (text, none) := by
  induction text generalizing inBrackets with
  | nil => rfl
  | cons c rest ih =>
    have hcolon : ¬(c = ':' ∧ inBrackets = false) := by
      rintro ⟨rfl, -⟩
      exact h ':' List.mem_cons_self (by decide)
    rw [splitPort, if_neg hcolon, ih fun d hd => h d (List.mem_cons_of_mem _ hd)]

/-- Characters that are no colons or brackets stay behind the last piece. -/
theorem splitPort_append (h : ∀ c ∈ more, c ∉ ":[]".toList) (inBrackets : Bool) (text : List Char) :
    splitPort inBrackets (text ++ more) =
      match splitPort inBrackets text with
      | (host, none) => (host ++ more, none)
      | (host, some port) => (host, some (port ++ more)) := by
  induction text generalizing inBrackets with
  | nil => exact splitPort_of_none h inBrackets
  | cons c rest ih =>
    simp only [List.cons_append, splitPort]
    split
    case isTrue => rfl
    case isFalse =>
      rw [ih]
      cases splitPort (if c = '[' then true else if c = ']' then false else inBrackets) rest with
      | mk host port => cases port <;> rfl

end Url

end HealthPanel
