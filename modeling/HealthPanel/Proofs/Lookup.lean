import Mathlib.Data.List.Induction
import Mathlib.Order.Basic

/-!
# What is found in a list of pairs

Where each key stands once, the pair that is found under a key is the one that is in the list. Where
the pairs are sorted by key, nothing is found under a key before that of the first.
-/

namespace HealthPanel

variable {κ α : Type} [BEq κ] [LawfulBEq κ] {pairs : List (κ × α)} {key : κ} {value : α}

/-- Among pairs with a key each, one is found if it is there. -/
theorem lookup_eq_some_iff_mem (distinct : pairs.Pairwise fun a b => a.1 ≠ b.1) :
    pairs.lookup key = some value ↔ (key, value) ∈ pairs := by
  constructor
  · intro h
    obtain ⟨front, back, rfl, -⟩ := List.lookup_eq_some_iff.mp h
    exact List.mem_append_right _ List.mem_cons_self
  · intro h
    obtain ⟨front, back, rfl⟩ := List.append_of_mem h
    refine List.lookup_eq_some_iff.mpr ⟨front, back, rfl, fun other hother => ?_⟩
    have hne := (List.pairwise_append.mp distinct).2.2 other hother _ List.mem_cons_self
    simpa using hne.symm

/-! ## Sorted pairs -/

variable [Preorder κ]

/-- A key before all others is not found. -/
theorem lookup_eq_none_of_lt (h : ∀ pair ∈ pairs, key < pair.1) : pairs.lookup key = none := by
  rw [List.lookup_eq_none_iff]
  exact fun pair hpair => by simpa using (h pair hpair).ne

/-- No key before that of the first of sorted pairs is found. -/
theorem lookup_eq_none_of_lt_head {first : κ × α}
    (sorted : (first :: pairs).Pairwise fun a b => a.1 < b.1) (h : key < first.1) :
    (first :: pairs).lookup key = none := by
  refine lookup_eq_none_of_lt fun pair hpair => ?_
  rcases List.mem_cons.mp hpair with rfl | hrest
  · exact h
  · exact h.trans ((List.pairwise_cons.mp sorted).1 pair hrest)

end HealthPanel
