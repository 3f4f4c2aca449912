import HealthPanel.Proofs.Url.Domain.Plain
import HealthPanel.Url.Parser

/-!
# Names that end in a control or a space

No host ends in a control or in the space: such a character is still there after percent signs
are resolved, characters replaced and composed, and it is neither a letter of Punycode nor allowed
in a label that is none.
-/

namespace HealthPanel.Url

variable {c : Char}

/-- A control or a space is no other character. -/
theorem ne_of_isControlOrSpace {d : Char} (hc : isControlOrSpace c = true)
    (hd : isControlOrSpace d = false) : c ≠ d := by
  rintro rfl
  exact Bool.false_ne_true (hd.symm.trans hc)

namespace Punycode

/-- A letter that is no digit is not read over. -/
theorem readDigits_concat (hdigit : digit? c = none) {bias : Nat} {letters : List Char}
    {place weight sum n : Nat} {rest : List Char}
    (h : readDigits bias (letters ++ [c]) place weight sum = some (n, rest)) :
    ∃ before, rest = before ++ [c] := by
  induction letters generalizing place weight sum with
  | nil => simp [readDigits, hdigit] at h
  | cons d letters ih =>
    rw [List.cons_append, readDigits, Option.bind_eq_bind, Option.bind_eq_some_iff] at h
    obtain ⟨value, -, h⟩ := h
    dsimp only at h
    split at h
    case isTrue => exact absurd h (by simp)
    case isFalse =>
      split at h
      case isTrue =>
        obtain ⟨-, rfl⟩ := Prod.mk.inj (Option.some.inj h)
        exact ⟨letters, rfl⟩
      case isFalse =>
        split at h
        case isTrue => exact absurd h (by simp)
        case isFalse => exact ih h

/-- Letters that end in one that is no digit place nothing. -/
theorem readPlaces_concat (hdigit : digit? c = none) (letters label : List Char)
    (value index bias : Nat) : readPlaces (letters ++ [c]) label value index bias = none := by
  induction hlength : letters.length using Nat.strongRecOn
    generalizing letters label value index bias with
  | _ length ih =>
    rw [readPlaces, if_neg (by simp)]
    split
    case h_1 => rfl
    case h_2 sum rest hread =>
      obtain ⟨before, rfl⟩ := readDigits_concat hdigit hread
      have hshorter := length_lt_of_readDigits hread
      simp only [List.length_append, List.length_singleton] at hshorter
      dsimp only
      split
      case isTrue => exact ih before.length (by omega) before _ _ _ _ rfl
      case isFalse => rfl

/-- Letters that end in neither a digit nor a hyphen stand for no label. -/
theorem decode?_concat (hdigit : digit? c = none) (hhyphen : c ≠ '-') (letters : List Char) :
    decode? (letters ++ [c]) = none := by
  have hothers : ∃ before, (splitBasic (letters ++ [c])).2 = before ++ [c] := by
    simp only [splitBasic]
    split
    case isTrue => exact ⟨letters, rfl⟩
    case isFalse => simp [hhyphen]
  obtain ⟨before, hothers⟩ := hothers
  simp only [decode?, hothers, readPlaces_concat hdigit, ite_self]

end Punycode

namespace Domain

/-- What holds of a control and of the space in each step of reading a name. -/
theorem of_isControlOrSpace (hc : isControlOrSpace c = true) :
    IsPlain c ∧ isForbidden c = true ∧ Punycode.digit? c = none := by
  have hle : c.toNat ≤ 0x20 := of_decide_eq_true hc
  refine ⟨⟨by omega, by omega⟩, by simp [isForbidden, hle], ?_⟩
  rw [Punycode.digit?, if_neg (by omega), if_neg (by omega), if_neg (by omega)]

/-- A character that is no full stop stays in the last label. -/
theorem splitLabels_concat (hc : c ≠ '.') (text : List Char) :
    ∃ labels label, splitLabels (text ++ [c]) = labels ++ [label ++ [c]] := by
  induction text with
  | nil => exact ⟨[], [], List.splitOn_eq_singleton (by simpa using Ne.symm hc)⟩
  | cons d text ih =>
    obtain ⟨labels, label, hsplit⟩ := ih
    simp only [splitLabels] at hsplit
    rw [splitLabels, List.cons_append, List.splitOn_cons_eq_if_modifyHead, hsplit]
    split
    case isTrue => exact ⟨[] :: labels, label, rfl⟩
    case isFalse =>
      cases labels with
      | nil => exact ⟨[], d :: label, rfl⟩
      | cons first labels => exact ⟨(d :: first) :: labels, label, rfl⟩

/-- No label ends in a control or a space. -/
theorem readLabel?_concat (hc : isControlOrSpace c = true) (label : List Char) :
    readLabel? (label ++ [c]) = none := by
  obtain ⟨-, hforbidden, hdigit⟩ := of_isControlOrSpace hc
  have hlabel : isLabel (label ++ [c]) = false := by
    simp [isLabel, standsForItself, hforbidden]
  simp only [readLabel?, hlabel]
  split
  case isFalse => rfl
  case isTrue hmark =>
    split
    case isFalse => rfl
    case isTrue =>
      have hdrop : ∃ before, (label ++ [c]).drop punycodeMark.length = before ++ [c] := by
        by_cases hlength : punycodeMark.length ≤ label.length
        · exact ⟨_, List.drop_append_of_le_length hlength⟩
        · have hprefix := List.isPrefixOf_iff_prefix.mp hmark
          have hwhole : punycodeMark = label ++ [c] :=
            hprefix.eq_of_length_le (by
              simp only [List.length_append, List.length_singleton]
              omega)
          have hmem : c ∈ punycodeMark :=
            hwhole ▸ List.mem_append_right _ (List.mem_singleton_self c)
          have hletters : ∀ d ∈ punycodeMark, isControlOrSpace d = false := by decide
          exact absurd rfl (ne_of_isControlOrSpace hc (hletters c hmem))
      obtain ⟨before, hdrop⟩ := hdrop
      rw [hdrop, Punycode.decode?_concat hdigit (ne_of_isControlOrSpace hc rfl)]
      rfl

/-- No name that ends in a control or a space has an ASCII form. -/
theorem toAscii?_concat (hc : isControlOrSpace c = true) {name : String} {front : List Char}
    (hname : name.toList = front ++ [c]) : toAscii? name = none := by
  obtain ⟨hplain, -, -⟩ := of_isControlOrSpace hc
  simp only [toAscii?, hname, List.mapM_append, List.mapM_cons, List.mapM_nil,
    replace?_of_isPlain hplain]
  cases hreplaced : front.mapM replace? with
  | none => rfl
  | some replaced =>
    have hflat : (replaced ++ [[c]]).flatten = replaced.flatten ++ [c] := by simp
    obtain ⟨labels, label, hsplit⟩ :=
      splitLabels_concat (ne_of_isControlOrSpace hc rfl) (normalize replaced.flatten)
    simp [hflat, normalize_concat hplain.1, hsplit, readLabel?_concat hc]

end Domain

end HealthPanel.Url
