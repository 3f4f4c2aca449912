import HealthPanel.Proofs.Http.Persistence
import Mathlib.Data.List.Infix

/-!
# Heads that are taken in bit by bit

A client takes in what a server sends bit by bit, and looks at what it has each time, or only if
that may be whole. Of a head that is not an interim one it never drops anything. So it reads that
head or none, and it does read it if all of it fits into the buffer.
-/

namespace HealthPanel.Http.Head

variable {head : Head} {bytes waiting s later rest : List UInt8} {takes : List (List UInt8)}

/-- No head is dropped in front of a final one, nor in front of what may become one. -/
theorem dropInterim_of_final (whole : readOne (s ++ later) = .done head rest)
    (final : head.isInterim = false) (fuel : Nat) : dropInterim fuel s = s := by
  cases fuel with
  | zero => rfl
  | succ fuel =>
    rw [dropInterim]
    cases hread : readOne s with
    | more | bad => rfl
    | done head' rest' =>
      have hsame := readOne_persists s later (by simp [hread])
      rw [hread, whole] at hsame
      obtain ⟨rfl, -⟩ := Incoming.done.inj hsame
      simp [final]

/-- A client that takes in some of a final head drops nothing. It reads the head off what has come,
if it does not wait for more. -/
theorem readTakes_cons_of_final {taken : List UInt8} (isPatient : Bool)
    (whole : readOne (waiting ++ taken ++ later) = .done head rest)
    (final : head.isInterim = false) :
    readTakes isPatient waiting (taken :: takes) =
      match if isPatient && !mayBeWhole waiting.length (waiting ++ taken) then .more
        else readOne (waiting ++ taken) with
      | .done head rest => .done head (rest ++ takes.flatten)
      | .bad => .bad
      | .more =>
        if maxBuffer ≤ (waiting ++ taken).length then .bad
        else readTakes isPatient (waiting ++ taken) takes := by
  rw [readTakes, look]
  by_cases hwaits : (isPatient && !mayBeWhole waiting.length (waiting ++ taken)) = true
  · simp only [if_pos hwaits]
  · simp only [if_neg hwaits, dropInterim_of_final whole final]
    cases readOne (waiting ++ taken) <;> rfl

/-- A client that takes in a final head and what comes behind it reads that head, or none. -/
theorem readTakes_of_final (isPatient : Bool)
    (whole : readOne (waiting ++ takes.flatten) = .done head rest)
    (final : head.isInterim = false) :
    readTakes isPatient waiting takes = .more ∨ readTakes isPatient waiting takes = .bad ∨
      readTakes isPatient waiting takes = .done head rest := by
  induction takes generalizing waiting with
  | nil => exact .inl rfl
  | cons taken takes ih =>
    rw [List.flatten_cons, ← List.append_assoc] at whole
    have hpersists := readOne_persists (waiting ++ taken) takes.flatten
    rw [readTakes_cons_of_final isPatient whole final]
    split
    case h_1 head' rest' hread =>
      split at hread
      case isTrue => cases hread
      case isFalse =>
        rw [hread, whole] at hpersists
        exact .inr (.inr (hpersists (by simp)).symm)
    case h_2 => exact .inr (.inl rfl)
    case h_3 =>
      split
      case isTrue => exact .inr (.inl rfl)
      case isFalse => exact ih whole

/-- Behind the front of some bytes a blank line is found. -/
theorem hasBlankLine_append (front rest : List UInt8) :
    hasBlankLine (front ++ 0x0D :: 0x0A :: 0x0D :: 0x0A :: rest) = true := by
  induction front with
  | nil => rfl
  | cons b front ih => simp [hasBlankLine, ih]

/-- What is not yet all of a head tells nothing. -/
theorem readOne_of_short (whole : readOne (s ++ later) = .done head []) (short : later ≠ []) :
    readOne s = .more := by
  have hpersists := readOne_persists s later
  rw [whole] at hpersists
  cases hread : readOne s with
  | more => rfl
  | bad =>
    rw [hread] at hpersists
    cases hpersists (by simp)
  | done head' rest' =>
    rw [hread] at hpersists
    have hrest := (Incoming.done.inj (hpersists (by simp))).2
    exact absurd (List.append_eq_nil_iff.mp hrest.symm).2 short

/-- A head that ends with a blank line may be whole as soon as all of it has come. -/
theorem mayBeWhole_of_ends {seen : Nat} (ends : ∃ front, bytes = front ++ [0x0D, 0x0A, 0x0D, 0x0A])
    (short : seen < bytes.length) (rest : List UInt8) : mayBeWhole seen (bytes ++ rest) = true := by
  obtain ⟨front, rfl⟩ := ends
  have hseen : seen - 3 ≤ front.length := by
    simp only [List.length_append, List.length_cons, List.length_nil] at short
    omega
  rw [mayBeWhole, List.append_assoc, List.drop_append_of_le_length hseen]
  exact Bool.or_eq_true_iff.mpr (.inr (hasBlankLine_append _ rest))

/-- A client that takes in a final head which fits into its buffer reads it, however little it takes
in at a time. -/
theorem readTakes_of_fits (isPatient : Bool) (whole : readOne bytes = .done head [])
    (final : head.isInterim = false) (ends : ∃ front, bytes = front ++ [0x0D, 0x0A, 0x0D, 0x0A])
    (fits : bytes.length ≤ maxBuffer) (short : waiting.length < bytes.length)
    (taken : waiting ++ takes.flatten = bytes ++ rest) :
    readTakes isPatient waiting takes = .done head rest := by
  have hwhole (rest : List UInt8) : readOne (bytes ++ rest) = .done head rest := by
    rw [readOne_persists bytes _ (by simp [whole]), whole]
    rfl
  induction takes generalizing waiting with
  | nil =>
    have hlength := congrArg List.length taken
    simp only [List.flatten_nil, List.append_nil, List.length_append] at hlength
    omega
  | cons bit takes ih =>
    rw [List.flatten_cons, ← List.append_assoc] at taken
    rw [readTakes_cons_of_final isPatient (taken ▸ hwhole rest) final]
    by_cases hshort : (waiting ++ bit).length < bytes.length
    · -- some of the head is still to come
      obtain ⟨left, hbytes⟩ : ∃ left, waiting ++ bit ++ left = bytes :=
        List.prefix_of_prefix_length_le ⟨takes.flatten, taken⟩ (List.prefix_append bytes rest)
          hshort.le
      have hleft : left ≠ [] := by
        rintro rfl
        rw [List.append_nil] at hbytes
        exact absurd hshort (hbytes ▸ lt_irrefl _)
      rw [readOne_of_short (hbytes ▸ whole) hleft, ite_self]
      dsimp only
      rw [if_neg (Nat.not_le.mpr (hshort.trans_le fits))]
      exact ih hshort taken
    · -- all of it has come, and perhaps more
      obtain ⟨surplus, hsurplus⟩ : ∃ surplus, bytes ++ surplus = waiting ++ bit :=
        List.prefix_of_prefix_length_le (List.prefix_append bytes rest) ⟨takes.flatten, taken⟩
          (Nat.not_lt.mp hshort)
      have hrest : surplus ++ takes.flatten = rest := by
        rw [← hsurplus, List.append_assoc] at taken
        exact List.append_cancel_left taken
      rw [← hsurplus, mayBeWhole_of_ends ends short, hwhole]
      simp [hrest]

end HealthPanel.Http.Head
