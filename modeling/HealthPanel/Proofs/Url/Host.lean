import HealthPanel.Proofs.Text.Utf8
import HealthPanel.Proofs.Url.Domain.Ending

/-!
# Hosts by their characters

A name of plain characters is its own host, and no host ends in a control or in the space.
-/

namespace HealthPanel.Url

variable {c : Char}

/-! ## Percent signs -/

/-- Bytes without a percent sign are decoded already. -/
theorem percentDecode_eq_self {bytes : List UInt8} (h : 0x25 ∉ bytes) :
    percentDecode bytes = bytes := by
  fun_induction percentDecode bytes with
  | case1 => rfl
  | case2 | case3 => simp at h
  | case4 b rest hnot ih => rw [ih fun hrest => h (List.mem_cons_of_mem _ hrest)]

/-- A byte that takes no part in an escape stays behind what is decoded before it. -/
theorem percentDecode_concat {b : UInt8} (hhex : Text.hexValue? b = none) (hpercent : b ≠ 0x25)
    (bytes : List UInt8) : percentDecode (bytes ++ [b]) = percentDecode bytes ++ [b] := by
  fun_induction percentDecode bytes with
  | case1 => simp [percentDecode]
  | case2 a d rest x y hd ha ih => simp [percentDecode, hd, ha, ih]
  | case3 a d rest hnot ih =>
    simp only [List.cons_append] at ih ⊢
    rw [percentDecode, ih]
    split
    case h_1 x y ha hd => exact (hnot x y ha hd).elim
    case h_2 => rfl
  | case4 d rest hnot ih =>
    rw [List.cons_append, List.cons_append, ← ih]
    by_cases hd : d = 0x25
    · subst hd
      -- Less than two bytes follow a percent sign that starts no escape.
      match rest, hnot with
      | [], _ => rfl
      | [a], _ => simp [percentDecode, hhex]
      | a :: e :: rest, hnot => exact (hnot a e rest rfl rfl).elim
    · simp [percentDecode, hd]

/-! ## Names -/

namespace Host

/-- A name of plain characters that no host forbids is read as it stands, unless a label carries
the mark of Punycode. -/
theorem ofDomain_of_plain {text : List Char}
    (h : ∀ c ∈ text, Domain.IsPlain c ∧ Domain.isForbidden c = false)
    (hmark : ∀ label ∈ Domain.splitLabels text, Domain.punycodeMark.isPrefixOf label = false) :
    ofDomain text = ofAscii (String.ofList text) := by
  have hbracket : text.head? ≠ some '[' := by
    intro hhead
    exact absurd (h '[' (List.mem_of_head? hhead)).2 (by decide)
  have hpercent : 0x25 ∉ Utf8.encode (String.ofList text) := by
    rw [Utf8.encode_ofList, List.mem_flatMap]
    rintro ⟨c, hc, hbyte⟩
    have hascii : c.toNat < 0x80 := (h c hc).1.1
    rw [Utf8.utf8EncodeChar_of_ascii hascii, List.mem_singleton, ← UInt8.toNat_inj,
      UInt8.toNat_ofNat'] at hbyte
    obtain rfl : '%' = c := Char.toNat_inj.mp (by simp at hbyte ⊢; omega)
    exact absurd (h '%' hc).2 (by decide)
  rw [ofDomain, if_neg hbracket, percentDecode_eq_self hpercent, Utf8.decode?_encode]
  simp only [Option.bind_some]
  rw [Domain.toAscii?_of_plain (by simpa using h) (by simpa using hmark)]

/-- No host ends in a control or a space. -/
theorem ofDomain_concat (hc : isControlOrSpace c = true) (text : List Char) :
    ∃ fault, ofDomain (text ++ [c]) = .error fault := by
  have hle : c.toNat ≤ 0x20 := of_decide_eq_true hc
  have hascii : c.toNat < 0x80 := by omega
  unfold ofDomain
  split
  case isTrue =>
    have hlast : (text ++ [c]).getLast? ≠ some ']' := by
      rw [List.getLast?_concat, Ne, Option.some.injEq]
      exact ne_of_isControlOrSpace hc rfl
    exact ⟨_, if_neg hlast⟩
  case isFalse =>
    have hbyte : (UInt8.ofNat c.toNat).toNat = c.toNat :=
      UInt8.toNat_ofNat_of_lt (by omega : c.toNat < 256)
    have hhex : Text.hexValue? (UInt8.ofNat c.toNat) = none := by
      simp only [Text.hexValue?, UInt8.le_iff_toNat_le, hbyte]
      rw [if_neg (by simp; omega), if_neg (by simp; omega), if_neg (by simp; omega)]
    have hpercent : UInt8.ofNat c.toNat ≠ 0x25 := by
      rw [Ne, ← UInt8.toNat_inj, hbyte]
      simp
      omega
    have hbytes : percentDecode (Utf8.encode (String.ofList (text ++ [c]))) =
        percentDecode (Utf8.encode (String.ofList text)) ++ [UInt8.ofNat c.toNat] := by
      rw [Utf8.encode_ofList, List.flatMap_append, List.flatMap_singleton,
        Utf8.utf8EncodeChar_of_ascii hascii, percentDecode_concat hhex hpercent,
        ← Utf8.encode_ofList]
    rw [hbytes]
    cases hdecode : Utf8.decode?
        (percentDecode (Utf8.encode (String.ofList text)) ++ [UInt8.ofNat c.toNat]) with
    | none => exact ⟨_, rfl⟩
    | some name =>
      obtain ⟨front, hname⟩ := Utf8.toList_of_decode?_concat hascii hdecode
      exact ⟨.invalidDomain, by simp [Domain.toAscii?_concat hc hname]⟩

end Host

end HealthPanel.Url
