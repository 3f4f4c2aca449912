import HealthPanel.Text.Utf8
import Mathlib.Data.List.Basic
import Mathlib.Data.List.Induction

/-!
# The bytes of a text

A text is encoded character by character. An ASCII character is a byte of its own, and all bytes
of other characters lie beyond ASCII, so that an ASCII byte is always a character.
-/

namespace HealthPanel.Utf8

variable {c : Char}

/-- A text is encoded letter by letter. -/
theorem encode_ofList (letters : List Char) :
    encode (String.ofList letters) = letters.flatMap String.utf8EncodeChar := by
  simp [encode, List.utf8Encode]

/-- Texts are encoded one behind the other. -/
theorem encode_append (front back : String) :
    encode (front ++ back) = encode front ++ encode back := by
  simp [encode]

/-- An ASCII character is one byte. -/
theorem utf8EncodeChar_of_ascii (h : c.toNat < 0x80) :
    String.utf8EncodeChar c = [UInt8.ofNat c.toNat] := by
  exact if_pos (Nat.lt_succ_iff.mp h)

/-- A text of ASCII has one byte for each character. -/
theorem encode_of_ascii {letters : List Char} (h : ∀ c ∈ letters, c.toNat < 0x80) :
    encode (String.ofList letters) = letters.map fun c => UInt8.ofNat c.toNat := by
  rw [encode_ofList, ← List.flatMap_singleton' (List.map _ _), List.flatMap_map]
  exact List.flatMap_congr fun c hc => utf8EncodeChar_of_ascii (h c hc)

/-- The bytes of any other character lie beyond ASCII. -/
theorem beyond_of_mem_utf8EncodeChar (h : 0x80 ≤ c.toNat) {b : UInt8}
    (hb : b ∈ String.utf8EncodeChar c) : 0x80 ≤ b.toNat := by
  have hlt : ¬c.val.toNat ≤ 0x7F := Nat.not_le.mpr h
  simp only [String.utf8EncodeChar, if_neg hlt] at hb
  split at hb
  case isTrue =>
    simp only [List.mem_cons, List.not_mem_nil, or_false] at hb
    rcases hb with rfl | rfl <;> simp only [UInt8.toNat_ofNat'] <;> omega
  case isFalse =>
    split at hb
    case isTrue =>
      simp only [List.mem_cons, List.not_mem_nil, or_false] at hb
      rcases hb with rfl | rfl | rfl <;> simp only [UInt8.toNat_ofNat'] <;> omega
    case isFalse =>
      simp only [List.mem_cons, List.not_mem_nil, or_false] at hb
      rcases hb with rfl | rfl | rfl | rfl <;> simp only [UInt8.toNat_ofNat'] <;> omega

/-- An ASCII byte at the end of a text is its last character. -/
theorem toList_of_decode?_concat {bytes : List UInt8} {text : String} (hascii : c.toNat < 0x80)
    (h : decode? (bytes ++ [UInt8.ofNat c.toNat]) = some text) :
    ∃ front, text.toList = front ++ [c] := by
  have hbytes := eq_encode_of_decode? h
  rw [← String.ofList_toList (s := text), encode_ofList] at hbytes
  cases htext : text.toList using List.reverseRecOn with
  | nil => simp [htext] at hbytes
  | append_singleton front last =>
    rw [htext, List.flatMap_append, List.flatMap_singleton] at hbytes
    by_cases hlast : last.toNat < 0x80
    · rw [utf8EncodeChar_of_ascii hlast] at hbytes
      have hbyte := congrArg UInt8.toNat (List.append_singleton_inj.mp hbytes).2
      simp only [UInt8.toNat_ofNat'] at hbyte
      obtain rfl : c = last := Char.toNat_inj.mp (by omega)
      exact ⟨front, rfl⟩
    · have hmem : UInt8.ofNat c.toNat ∈ String.utf8EncodeChar last := by
        have hend := congrArg List.getLast? hbytes
        rw [List.getLast?_concat, List.getLast?_append,
          List.getLast?_eq_some_getLast String.utf8EncodeChar_ne_nil, Option.some_or] at hend
        rw [Option.some.inj hend]
        exact List.getLast_mem _
      have hbeyond := beyond_of_mem_utf8EncodeChar (Nat.not_lt.mp hlast) hmem
      simp only [UInt8.toNat_ofNat'] at hbeyond
      omega

/-! ## Where characters begin -/

/-- A character begins with a byte that begins no part of another, and goes on with bytes that begin
no character. -/
theorem exists_utf8EncodeChar_eq_cons (c : Char) :
    ∃ first rest, String.utf8EncodeChar c = first :: rest ∧ first.IsUTF8FirstByte ∧
      ∀ b ∈ rest, ¬b.IsUTF8FirstByte := by
  obtain ⟨first, rest, hbytes⟩ :=
    List.exists_cons_of_ne_nil (String.utf8EncodeChar_ne_nil (c := c))
  have hbegins (i : Nat) (hi : i < (first :: rest).length) :
      (first :: rest)[i].IsUTF8FirstByte ↔ i = 0 := by
    simp only [← hbytes]
    exact UInt8.isUTF8FirstByte_getElem_utf8EncodeChar
  refine ⟨first, rest, hbytes, (hbegins 0 (Nat.succ_pos _)).mpr rfl, fun b hb => ?_⟩
  obtain ⟨i, hi, rfl⟩ := List.mem_iff_getElem.mp hb
  exact fun h => absurd ((hbegins (i + 1) (Nat.succ_lt_succ hi)).mp h) (Nat.succ_ne_zero i)

/-- No character is the beginning of another. -/
theorem utf8EncodeChar_append_inj {d : Char} {s t : List UInt8}
    (h : String.utf8EncodeChar c ++ s = String.utf8EncodeChar d ++ t) : c = d ∧ s = t := by
  have hdecode (c : Char) (s : List UInt8) :
      ByteArray.utf8DecodeChar? (String.utf8EncodeChar c ++ s).toByteArray 0 = some c := by
    rw [List.toByteArray_append]
    exact ByteArray.utf8DecodeChar?_utf8EncodeChar_append
  have hchar : c = d := by
    have hfirst := hdecode c s
    rw [h, hdecode d t] at hfirst
    exact (Option.some.inj hfirst).symm
  subst hchar
  exact ⟨rfl, List.append_cancel_left h⟩

end HealthPanel.Utf8
