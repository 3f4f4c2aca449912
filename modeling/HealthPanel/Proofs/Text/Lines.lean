import Mathlib.Algebra.GroupWithZero.Nat
import Mathlib.Data.String.Basic

/-!
# The lines of a text

A text has one line more than line breaks. Lines without line breaks can be read back from the text
that they are joined to, and numbers are such lines.
-/

namespace HealthPanel

/-- The lines of a text. -/
def linesOf (text : String) : List String :=
  (text.toList.splitOn '\n').map String.ofList

/-- The number of line breaks in a text. -/
def lineBreaks (text : String) : Nat :=
  text.toList.count '\n'

variable {lines : List String} {text : String}

/-- A line break ends the lines before it. -/
theorem linesOf_append_newline (first rest : String) :
    linesOf (first ++ "\n" ++ rest) = linesOf first ++ linesOf rest := by
  simp [linesOf, List.splitOn_append_cons_self]

/-- There is no line break exactly if none is counted. -/
theorem lineBreaks_eq_zero_iff : lineBreaks text = 0 ↔ '\n' ∉ text.toList :=
  List.count_eq_zero

/-- The line breaks of two texts are counted together. -/
theorem lineBreaks_append (first rest : String) :
    lineBreaks (first ++ rest) = lineBreaks first + lineBreaks rest := by
  rw [lineBreaks, String.toList_append, List.count_append]
  rfl

/-- A text has one line more than line breaks. -/
theorem length_linesOf (text : String) : (linesOf text).length = lineBreaks text + 1 := by
  rw [linesOf, List.length_map, lineBreaks]
  induction text.toList with
  | nil => rfl
  | cons c letters ih =>
    rw [List.splitOn_eq_splitOnP] at ih
    rw [List.splitOn_eq_splitOnP, List.splitOnP_cons_eq_if_modifyHead]
    by_cases hc : c = '\n' <;> simp [hc, ih]

/-- Joining lines by line breaks makes one line of each, and one more for every line break in
them. -/
theorem length_linesOf_intercalate (nonempty : lines ≠ []) :
    (linesOf ("\n".intercalate lines)).length = lines.length + (lines.map lineBreaks).sum := by
  induction lines with
  | nil => exact absurd rfl nonempty
  | cons first lines ih =>
    cases lines with
    | nil => simp [length_linesOf, Nat.add_comm]
    | cons second lines =>
      rw [String.intercalate_cons_cons, linesOf_append_newline, List.length_append,
        length_linesOf, ih (List.cons_ne_nil _ _)]
      simp only [List.length_cons, List.map_cons, List.sum_cons]
      omega

/-- Lines without line breaks are the lines of the text that they are joined to. -/
theorem linesOf_intercalate (nonempty : lines ≠ [])
    (unbroken : ∀ line ∈ lines, '\n' ∉ line.toList) : linesOf ("\n".intercalate lines) = lines := by
  have hnewline : "\n".toList = ['\n'] := by decide
  rw [linesOf, String.toList_intercalate, hnewline,
    List.splitOn_intercalate '\n' (by simpa using unbroken) (by simpa using nonempty)]
  simp

/-- Lines with a line break behind each of them are the lines of the text that they make, and
nothing comes behind the last. -/
theorem linesOf_join (unbroken : ∀ line ∈ lines, '\n' ∉ line.toList) :
    linesOf (String.join (lines.map (· ++ "\n"))) = lines ++ [""] := by
  induction lines with
  | nil => rfl
  | cons first lines ih =>
    obtain ⟨hfirst, hlines⟩ := List.forall_mem_cons.mp unbroken
    have hline : linesOf first = [first] := by
      rw [linesOf, List.splitOn_eq_singleton hfirst, List.map_singleton, String.ofList_toList]
    rw [List.map_cons, String.join_cons, linesOf_append_newline, ih hlines, hline,
      List.singleton_append, List.cons_append]

/-! ## Numbers stand on one line -/

/-- The digits of a number stand on one line. -/
theorem newline_notMem_toDigits (n : Nat) : '\n' ∉ Nat.toDigits 10 n := by
  intro h
  have hdigit : '\n'.isDigit := Nat.isDigit_of_mem_toDigits (by decide) (by decide) h
  exact absurd hdigit (by decide)

end HealthPanel
