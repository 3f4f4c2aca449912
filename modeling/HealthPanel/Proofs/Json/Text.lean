import HealthPanel.Json.Lexeme
import HealthPanel.Json.Writer
import HealthPanel.Proofs.Text.Digits
import HealthPanel.Proofs.Text.Utf8
import Mathlib.Data.List.Forall2

/-!
# Texts as JSON spells them

Between the quotes of a text a character stands for itself, unless it is a control, a quote or a
backslash, or it is escaped by a letter or by one or two numbers. Whatever spelling is chosen, the
reader gets the text back, and the writer chooses one of them.
-/

namespace HealthPanel.Json

open HealthPanel.Text (hexDigit)

/-- How a character may be spelled between quotes. -/
inductive SpellsChar (c : Char) : List UInt8 → Prop
  | itself (control : 0x20 ≤ c.toNat) (quote : c ≠ '"') (backslash : c ≠ '\\') :
    SpellsChar c (String.utf8EncodeChar c)
  | letter {letter b : UInt8} (short : shortEscape? letter = some b) (means : c.toNat = b.toNat) :
    SpellsChar c [0x5C, letter]
  | number {p q r s : UInt8} (digits : hexNumber? p q r s = some c.toNat) :
    SpellsChar c [0x5C, 0x75, p, q, r, s]
  | pair {p q r s t u v w : UInt8} {high low : Nat} (leading : hexNumber? p q r s = some high)
    (trailing : hexNumber? t u v w = some low) (isHigh : 0xD800 ≤ high ∧ high ≤ 0xDBFF)
    (isLow : 0xDC00 ≤ low ∧ low ≤ 0xDFFF) (means : c.toNat = pairedCodePoint high low) :
    SpellsChar c [0x5C, 0x75, p, q, r, s, 0x5C, 0x75, t, u, v, w]

/-- How characters may be spelled between quotes. -/
def SpellsChars (chars : List Char) (bytes : List UInt8) : Prop :=
  ∃ spelled, List.Forall₂ SpellsChar chars spelled ∧ bytes = spelled.flatten

variable {c : Char} {bytes bound done s : List UInt8}

/-! ## Reading -/

/-- Bytes that mean nothing else are contents. -/
theorem readContents_append
    (plain : ∀ b ∈ bytes, 0x20 ≤ b.toNat ∧ b ≠ 0x22 ∧ b ≠ 0x5C)
    (enough : bytes.length ≤ bound.length) :
    readContents bound done (bytes ++ s) =
      readContents (bound.drop bytes.length) (bytes.reverse ++ done) s := by
  induction bytes generalizing bound done with
  | nil => rfl
  | cons b bytes ih =>
    obtain ⟨⟨hcontrol, hquote, hbackslash⟩, hrest⟩ := List.forall_mem_cons.mp plain
    obtain _ | ⟨first, bound⟩ := bound
    · simp at enough
    · have hcontrol : ¬b < 0x20 := by
        rw [UInt8.lt_iff_toNat_lt]
        exact Nat.not_lt.mpr hcontrol
      rw [List.cons_append, readContents, if_neg hquote, if_neg hbackslash, if_neg hcontrol,
        ih hrest (Nat.le_of_succ_le_succ enough)]
      simp

/-- The bytes of a character that may stand for itself mean nothing else. -/
theorem plain_of_mem_utf8EncodeChar (control : 0x20 ≤ c.toNat) (quote : c ≠ '"')
    (backslash : c ≠ '\\') {b : UInt8} (hb : b ∈ String.utf8EncodeChar c) :
    0x20 ≤ b.toNat ∧ b ≠ 0x22 ∧ b ≠ 0x5C := by
  by_cases hascii : c.toNat < 0x80
  · rw [Utf8.utf8EncodeChar_of_ascii hascii, List.mem_singleton] at hb
    have hbyte : b.toNat = c.toNat := by
      rw [hb, UInt8.toNat_ofNat']
      omega
    refine ⟨hbyte ▸ control, ?_, ?_⟩
    · rintro rfl
      exact quote (Char.toNat_inj.mp hbyte.symm)
    · rintro rfl
      exact backslash (Char.toNat_inj.mp hbyte.symm)
  · have hbeyond := Utf8.beyond_of_mem_utf8EncodeChar (Nat.not_lt.mp hascii) hb
    refine ⟨by omega, ?_, ?_⟩ <;> rintro rfl <;> simp at hbeyond

/-- An escape is read as the bytes it stands for. -/
theorem readContents_escape {escape meaning : List UInt8} {first : UInt8}
    (h : readEscape (escape ++ s) = .ok (meaning, s)) :
    readContents (first :: bound) done (0x5C :: escape ++ s) =
      readContents bound (meaning.reverse ++ done) s := by
  rw [List.cons_append, readContents, if_neg (by decide), if_pos rfl, h]

/-- A letter behind a backslash is read as the byte that it stands for. -/
theorem readEscape_letter {letter b : UInt8} (short : shortEscape? letter = some b) :
    readEscape ([letter] ++ s) = .ok ([b], s) := by
  have hletter : letter ≠ 0x75 := by
    rintro rfl
    simp [shortEscape?] at short
  simp only [List.singleton_append, readEscape, short]

/-- Escapes of one letter stand for ASCII characters. -/
theorem lt_of_shortEscape? {letter b : UInt8} (short : shortEscape? letter = some b) :
    b.toNat < 0x80 := by
  unfold shortEscape? at short
  split at short <;> first | (cases short; decide) | cases short

/-- No character is a half of a pair. -/
theorem toNat_lt_or_lt (c : Char) : c.toNat < 0xD800 ∨ 0xDFFF < c.toNat :=
  c.valid.imp id And.left

/-- The number of a character is written as the character. -/
theorem codePoint_toNat (c : Char) : codePoint c.toNat = String.utf8EncodeChar c := by
  rw [codePoint, Char.ofNat_toNat]

/-- Four digits that number a character are read as it. -/
theorem readEscape_number {p q r s' : UInt8} (digits : hexNumber? p q r s' = some c.toNat) :
    readEscape ([0x75, p, q, r, s'] ++ s) = .ok (String.utf8EncodeChar c, s) := by
  have hvalid := toNat_lt_or_lt c
  have hlow : ¬(0xDC00 ≤ c.toNat ∧ c.toNat ≤ 0xDFFF) := by omega
  have hhigh : ¬(0xD800 ≤ c.toNat ∧ c.toNat ≤ 0xDBFF) := by omega
  simp only [List.cons_append, List.nil_append, readEscape, readUnicode, readHex, digits,
    if_neg hlow, if_neg hhigh, codePoint_toNat]

/-- Twice four digits that number the halves of a character are read as it. -/
theorem readEscape_pair {p q r s' t u v w : UInt8} {high low : Nat}
    (leading : hexNumber? p q r s' = some high) (trailing : hexNumber? t u v w = some low)
    (isHigh : 0xD800 ≤ high ∧ high ≤ 0xDBFF) (isLow : 0xDC00 ≤ low ∧ low ≤ 0xDFFF)
    (means : c.toNat = pairedCodePoint high low) :
    readEscape ([0x75, p, q, r, s', 0x5C, 0x75, t, u, v, w] ++ s) =
      .ok (String.utf8EncodeChar c, s) := by
  have hnot : ¬(0xDC00 ≤ high ∧ high ≤ 0xDFFF) := by omega
  simp only [List.cons_append, List.nil_append, readEscape, readUnicode, readHex, leading,
    if_neg hnot, if_pos isHigh, readTrailing, trailing, if_pos isLow, ← means, codePoint_toNat]

/-- A character is read, however it is spelled. -/
theorem readContents_char (h : SpellsChar c bytes) (enough : bytes.length ≤ bound.length)
    (done s : List UInt8) :
    ∃ left, bound.length ≤ bytes.length + left.length ∧
      readContents bound done (bytes ++ s) =
        readContents left ((String.utf8EncodeChar c).reverse ++ done) s := by
  have escaped {escape : List UInt8} (hbytes : bytes = 0x5C :: escape)
      (hread : readEscape (escape ++ s) = .ok (String.utf8EncodeChar c, s)) :
      ∃ left, bound.length ≤ bytes.length + left.length ∧
        readContents bound done (bytes ++ s) =
          readContents left ((String.utf8EncodeChar c).reverse ++ done) s := by
    subst hbytes
    obtain _ | ⟨first, bound⟩ := bound
    · simp at enough
    · have hlength : (first :: bound).length ≤ (0x5C :: escape).length + bound.length := by
        rw [List.length_cons, List.length_cons]
        omega
      exact ⟨bound, hlength, readContents_escape hread⟩
  cases h with
  | itself control quote backslash =>
    have hlength : bound.length ≤ (String.utf8EncodeChar c).length +
        (bound.drop (String.utf8EncodeChar c).length).length := by
      rw [List.length_drop]
      omega
    exact ⟨_, hlength,
      readContents_append (fun b => plain_of_mem_utf8EncodeChar control quote backslash) enough⟩
  | @letter letter b short means =>
    refine escaped rfl ?_
    rw [readEscape_letter short, Utf8.utf8EncodeChar_of_ascii (means ▸ lt_of_shortEscape? short),
      means, UInt8.ofNat_toNat]
  | number digits => exact escaped rfl (readEscape_number digits)
  | pair leading trailing isHigh isLow means =>
    exact escaped rfl (readEscape_pair leading trailing isHigh isLow means)

/-- Characters are read up to the quote after them. -/
theorem readContents_chars {chars : List Char} (h : SpellsChars chars bytes)
    (enough : bytes.length < bound.length) (done s : List UInt8) :
    readContents bound done (bytes ++ 0x22 :: s) =
      .ok (done.reverse ++ chars.flatMap String.utf8EncodeChar, s) := by
  obtain ⟨spelled, hspelled, rfl⟩ := h
  induction hspelled generalizing bound done with
  | nil =>
    obtain _ | ⟨first, bound⟩ := bound
    · simp at enough
    · simp [readContents]
  | @cons c bytes chars spelled hchar _ ih =>
    rw [List.flatten_cons, List.length_append] at enough
    have hfirst : bytes.length ≤ bound.length := by omega
    obtain ⟨left, hleft, hread⟩ := readContents_char hchar hfirst done
      (spelled.flatten ++ 0x22 :: s)
    have hrest : spelled.flatten.length < left.length := by omega
    rw [List.flatten_cons, List.append_assoc, hread, ih _ hrest]
    simp

/-- A text is read back, however it is spelled. -/
theorem readText_of_spellsChars {text : String} (h : SpellsChars text.toList bytes) :
    readText (bytes ++ 0x22 :: s) = .ok (text, s) := by
  have henough : bytes.length < (bytes ++ 0x22 :: s).length := by simp
  have hread := readContents_chars h henough [] s
  rw [List.reverse_nil, List.nil_append, ← Utf8.encode_ofList, String.ofList_toList] at hread
  simp only [readText, hread, Utf8.decode?_encode]

/-! ## Writing -/

/-- The four digits of a control. -/
theorem hexNumber?_control : ∀ n < 0x20,
    hexNumber? 0x30 0x30 (hexDigit (n / 16)).toNat.toUInt8 (hexDigit (n % 16)).toNat.toUInt8 =
      some n := by
  decide

/-- Digits are ASCII. -/
theorem utf8EncodeChar_hexDigit : ∀ n < 16,
    String.utf8EncodeChar (hexDigit n) = [(hexDigit n).toNat.toUInt8] := by
  decide

/-- The writer spells every character. -/
theorem spellsChar_escape (c : Char) : SpellsChar c ((escape c).flatMap String.utf8EncodeChar) := by
  unfold escape
  split
  case h_8 quote backslash _ _ _ _ _ =>
    split
    case isTrue control =>
      have hhigh : c.toNat / 16 < 16 := by omega
      have hlow : c.toNat % 16 < 16 := by omega
      simp only [List.flatMap_cons, List.flatMap_nil, utf8EncodeChar_hexDigit _ hhigh,
        utf8EncodeChar_hexDigit _ hlow]
      exact .number (hexNumber?_control _ control)
    case isFalse control =>
      simpa using SpellsChar.itself (Nat.not_lt.mp control) quote backslash
  all_goals exact .letter rfl rfl

/-- The writer puts quotes around a spelling of the text. -/
theorem exists_encode_quoted (text : String) :
    ∃ bytes, SpellsChars text.toList bytes ∧
      Utf8.encode (quoted text) = 0x22 :: bytes ++ [0x22] := by
  refine ⟨(text.toList.flatMap escape).flatMap String.utf8EncodeChar,
    ⟨text.toList.map fun c => (escape c).flatMap String.utf8EncodeChar, ?_, ?_⟩, ?_⟩
  · rw [List.forall₂_map_right_iff, List.forall₂_same]
    exact fun c _ => spellsChar_escape c
  · rw [List.flatMap_assoc, List.flatMap_def]
  · have hquote : Utf8.encode "\"" = [0x22] := rfl
    rw [quoted, Utf8.encode_append, Utf8.encode_append, hquote, Utf8.encode_ofList,
      List.singleton_append]

end HealthPanel.Json
