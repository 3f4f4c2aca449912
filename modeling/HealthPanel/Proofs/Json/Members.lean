import HealthPanel.Proofs.Json.Grammar
import HealthPanel.Proofs.Lookup
import Mathlib.Data.String.Basic

/-!
# What an object keeps of its members

Members are set one after another in a list sorted by key. What is kept in the end depends on the
members alone: the last value of each key, once.
-/

namespace HealthPanel.Json

variable {key : String} {value : Value} {members kept others : List (String × Value)}

/-- A member that is kept is the one that is set, or was there before. -/
theorem mem_insertMember {member : String × Value} (h : member ∈ insertMember key value kept) :
    member = (key, value) ∨ member ∈ kept := by
  induction kept with
  | nil => exact .inl (by simpa [insertMember] using h)
  | cons first kept ih =>
    obtain ⟨other, old⟩ := first
    rw [insertMember] at h
    split at h
    case isTrue =>
      exact (List.mem_cons.mp h).imp_right (List.mem_cons_of_mem _)
    case isFalse =>
      split at h
      case isTrue => exact List.mem_cons.mp h
      case isFalse =>
        rcases List.mem_cons.mp h with rfl | hrest
        · exact .inr List.mem_cons_self
        · exact (ih hrest).imp_right (List.mem_cons_of_mem _)

/-- Setting a member keeps the members sorted. -/
theorem pairwise_insertMember (sorted : kept.Pairwise fun a b => a.1 < b.1) :
    (insertMember key value kept).Pairwise fun a b => a.1 < b.1 := by
  induction kept with
  | nil => exact List.pairwise_singleton _ _
  | cons first kept ih =>
    obtain ⟨other, old⟩ := first
    obtain ⟨hfirst, hkept⟩ := List.pairwise_cons.mp sorted
    rw [insertMember]
    split
    case isTrue heq =>
      subst heq
      exact .cons hfirst hkept
    case isFalse hne =>
      split
      case isTrue hlt =>
        refine .cons (fun member hmember => ?_) sorted
        rcases List.mem_cons.mp hmember with rfl | hrest
        · exact hlt
        · exact lt_trans hlt (hfirst member hrest)
      case isFalse hge =>
        refine .cons (fun member hmember => ?_) (ih hkept)
        rcases mem_insertMember hmember with rfl | hrest
        · exact lt_of_le_of_ne (not_lt.mp hge) (Ne.symm hne)
        · exact hfirst member hrest

/-- One more member at the end is set in what is kept. -/
theorem Keeps.concat (h : Keeps members kept) (key : String) (value : Value) :
    Keeps (members ++ [(key, value)]) (insertMember key value kept) := by
  refine ⟨pairwise_insertMember h.1, fun other => ?_⟩
  rw [List.reverse_concat]
  by_cases heq : other = key
  · subst heq
    rw [lookup_insertMember_self, List.lookup_cons_self]
  · have hb : (other == key) = false := by simp [heq]
    rw [lookup_insertMember_of_ne heq, h.2, List.lookup_cons, hb]

/-- Members that are set one after another are kept. -/
theorem keeps_foldl (members : List (String × Value)) :
    Keeps members (members.foldl (fun kept member => insertMember member.1 member.2 kept) []) := by
  induction members using List.reverseRecOn with
  | nil => exact ⟨.nil, fun _ => rfl⟩
  | append_singleton members last ih =>
    rw [List.foldl_concat]
    exact ih.concat last.1 last.2

/-- Sorted members in which the same is found are the same. -/
theorem eq_of_lookup_eq (sorted : kept.Pairwise fun a b => a.1 < b.1)
    (sortedOthers : others.Pairwise fun a b => a.1 < b.1)
    (same : ∀ key, kept.lookup key = others.lookup key) : kept = others := by
  induction kept generalizing others with
  | nil =>
    cases others with
    | nil => rfl
    | cons first others =>
      obtain ⟨key, value⟩ := first
      simpa using same key
  | cons first kept ih =>
    cases others with
    | nil => simpa using same first.1
    | cons second others =>
      obtain ⟨key, value⟩ := first
      obtain ⟨other, old⟩ := second
      obtain ⟨hfirst, hkept⟩ := List.pairwise_cons.mp sorted
      obtain ⟨hsecond, hothers⟩ := List.pairwise_cons.mp sortedOthers
      have hkey : key = other := by
        rcases lt_trichotomy key other with hlt | heq | hgt
        · have hnone := lookup_eq_none_of_lt_head sortedOthers hlt
          rw [← same key, List.lookup_cons_self] at hnone
          cases hnone
        · exact heq
        · have hnone := lookup_eq_none_of_lt_head sorted hgt
          rw [same other, List.lookup_cons_self] at hnone
          cases hnone
      subst hkey
      have hvalue := same key
      rw [List.lookup_cons_self, List.lookup_cons_self, Option.some.injEq] at hvalue
      rw [hvalue, ih hkept hothers fun wanted => ?_]
      by_cases heq : wanted = key
      · subst heq
        rw [lookup_eq_none_of_lt hfirst, lookup_eq_none_of_lt hsecond]
      · have hb : (wanted == key) = false := by simp [heq]
        have hwanted := same wanted
        rwa [List.lookup_cons, List.lookup_cons, hb] at hwanted

/-- What an object keeps of its members is determined. -/
theorem Keeps.unique (h : Keeps members kept) (hothers : Keeps members others) : kept = others :=
  eq_of_lookup_eq h.1 hothers.1 fun key => (h.2 key).trans (hothers.2 key).symm

/-- Among the members that are kept no key is there twice. -/
theorem Keeps.distinct (h : Keeps members kept) : kept.Pairwise fun a b => a.1 ≠ b.1 :=
  h.1.imp fun hlt => hlt.ne

/-- An object keeps only members that it was given. -/
theorem Keeps.subset (h : Keeps members kept) : kept ⊆ members := by
  intro member hmember
  have hlookup := (lookup_eq_some_iff_mem h.distinct).mpr hmember
  rw [h.2, List.lookup_eq_some_iff] at hlookup
  obtain ⟨front, back, hmembers, -⟩ := hlookup
  rw [← List.mem_reverse, hmembers]
  exact List.mem_append_right _ List.mem_cons_self

/-- What an object has kept it keeps once more, if it is given that. -/
theorem Keeps.self (h : Keeps members kept) : Keeps kept kept := by
  refine ⟨h.1, fun key => Option.ext fun value => ?_⟩
  have hreverse : kept.reverse.Pairwise fun a b => a.1 ≠ b.1 :=
    List.pairwise_reverse.mpr (h.distinct.imp Ne.symm)
  rw [lookup_eq_some_iff_mem h.distinct, lookup_eq_some_iff_mem hreverse, List.mem_reverse]

end HealthPanel.Json
