import HealthPanel.Proofs.Json.Text

/-!
# What the reader takes for a text

The reader gathers the contents of a text as bytes: a byte that means itself, or all bytes of the
character that an escape means. Only the whole is looked at as UTF-8. An escape begins with a byte
that goes on with no character, so that every character comes either from one escape or from bytes
that mean themselves, and the contents are spelled as a text should be.
-/

namespace HealthPanel.Json

open HealthPanel.Text (hexValue?)

variable {bytes meaning rest s contents : List UInt8} {n : Nat}

/-! ## Escapes -/

/-- A hexadecimal digit is worth less than sixteen. -/
theorem hexValue?_lt {b : UInt8} (h : hexValue? b = some n) : n < 16 := by
  simp only [hexValue?, UInt8.le_iff_toNat_le, UInt8.reduceToNat] at h
  split at h
  case isTrue =>
    obtain rfl := Option.some.inj h
    omega
  case isFalse =>
    split at h
    case isTrue =>
      obtain rfl := Option.some.inj h
      omega
    case isFalse =>
      split at h
      case isTrue =>
        obtain rfl := Option.some.inj h
        omega
      case isFalse => cases h

/-- Four hexadecimal digits fit sixteen bits. -/
theorem hexNumber?_lt {a b c d : UInt8} (h : hexNumber? a b c d = some n) : n < 0x10000 := by
  simp only [hexNumber?, Option.bind_eq_bind, Option.bind_eq_some_iff, Option.pure_def,
    Option.some.injEq] at h
  obtain ⟨p, hp, q, hq, r, hr, t, ht, rfl⟩ := h
  have hp := hexValue?_lt hp
  have hq := hexValue?_lt hq
  have hr := hexValue?_lt hr
  have ht := hexValue?_lt ht
  omega

/-- What is read as a number in an escape is four hexadecimal digits. -/
theorem exists_of_readHex (h : readHex s = .ok (n, rest)) :
    ∃ a b c d, hexNumber? a b c d = some n ∧ s = [a, b, c, d] ++ rest := by
  unfold readHex at h
  split at h
  case h_1 a b c d s =>
    split at h
    case h_1 number hnumber =>
      cases h
      exact ⟨a, b, c, d, hnumber, rfl⟩
    case h_2 => cases h
  case h_2 => cases h

/-- A number that is no half of a pair is that of a character. -/
theorem toNat_ofNat {n : Nat} (h : n < 0xD800 ∨ 0xDFFF < n ∧ n < 0x110000) :
    (Char.ofNat n).toNat = n := by
  rw [Char.ofNat, dif_pos h]
  rfl

/-- The trailing half of a pair makes a character of the leading half. -/
theorem spellsChar_of_readTrailing {p q r s' : UInt8} {high : Nat}
    (leading : hexNumber? p q r s' = some high) (isHigh : 0xD800 ≤ high ∧ high ≤ 0xDBFF)
    (h : readTrailing high s = .ok (meaning, rest)) :
    ∃ c escape, meaning = String.utf8EncodeChar c ∧
      SpellsChar c ([0x5C, 0x75, p, q, r, s'] ++ escape) ∧ s = escape ++ rest := by
  unfold readTrailing at h
  split at h
  case h_3 s =>
    split at h
    case h_1 => cases h
    case h_2 low left hread =>
      split at h
      case isTrue isLow =>
        obtain ⟨rfl, rfl⟩ := Prod.mk.inj (Except.ok.inj h)
        obtain ⟨t, u, v, w, trailing, rfl⟩ := exists_of_readHex hread
        refine ⟨Char.ofNat (pairedCodePoint high low), [0x5C, 0x75, t, u, v, w], rfl, ?_, rfl⟩
        refine .pair leading trailing isHigh isLow (toNat_ofNat ?_)
        rw [pairedCodePoint]
        omega
      case isFalse => cases h
  all_goals cases h

/-- An escape stands for a character. -/
theorem spellsChar_of_readEscape (h : readEscape s = .ok (meaning, rest)) :
    ∃ c escape, meaning = String.utf8EncodeChar c ∧ SpellsChar c (0x5C :: escape) ∧
      s = escape ++ rest := by
  unfold readEscape at h
  split at h
  case h_1 => cases h
  case h_2 s =>
    unfold readUnicode at h
    split at h
    case h_1 => cases h
    case h_2 number left hread =>
      obtain ⟨p, q, r, s', digits, rfl⟩ := exists_of_readHex hread
      have hlt := hexNumber?_lt digits
      split at h
      case isTrue => cases h
      case isFalse hlow =>
        split at h
        case isTrue isHigh =>
          obtain ⟨c, escape, hmeaning, hspells, rfl⟩ := spellsChar_of_readTrailing digits isHigh h
          exact ⟨c, [0x75, p, q, r, s'] ++ escape, hmeaning, hspells, by simp⟩
        case isFalse hhigh =>
          cases h
          refine ⟨Char.ofNat number, [0x75, p, q, r, s'], rfl, .number ?_, rfl⟩
          rw [toNat_ofNat (by omega)]
          exact digits
  case h_3 letter s _ =>
    split at h
    case h_1 b short =>
      cases h
      have hascii := lt_of_shortEscape? short
      have hmeans : (Char.ofNat b.toNat).toNat = b.toNat := toNat_ofNat (.inl (by omega))
      refine ⟨Char.ofNat b.toNat, [letter], ?_, .letter short hmeans, rfl⟩
      rw [Utf8.utf8EncodeChar_of_ascii (hmeans.symm ▸ hascii), hmeans, UInt8.ofNat_toNat]
    case h_2 => cases h

/-! ## Contents -/

/-- A byte or an escape between quotes, and the bytes that it means. -/
inductive Piece : List UInt8 → List UInt8 → Prop
  | plain {b : UInt8} (control : 0x20 ≤ b.toNat) (quote : b ≠ 0x22) (backslash : b ≠ 0x5C) :
    Piece [b] [b]
  | escape {c : Char} {bytes : List UInt8} (spelled : SpellsChar c bytes) :
    Piece bytes (String.utf8EncodeChar c)

/-- What the reader gathers up to the closing quote comes in pieces. -/
theorem exists_pieces_of_readContents {bound done : List UInt8}
    (h : readContents bound done s = .ok (contents, rest)) :
    ∃ spelled meant, List.Forall₂ Piece spelled meant ∧ contents = done.reverse ++ meant.flatten ∧
      s = spelled.flatten ++ 0x22 :: rest := by
  induction bound generalizing done s with
  | nil => cases h
  | cons first bound ih =>
    cases s with
    | nil => cases h
    | cons b s =>
      rw [readContents] at h
      split at h
      case isTrue hquote =>
        cases h
        exact ⟨[], [], .nil, by simp, by rw [hquote]; rfl⟩
      case isFalse hquote =>
        split at h
        case isTrue hbackslash =>
          subst hbackslash
          split at h
          case h_1 => cases h
          case h_2 meaning left hescape =>
            obtain ⟨c, escape, rfl, hspells, rfl⟩ := spellsChar_of_readEscape hescape
            obtain ⟨spelled, meant, hpieces, rfl, rfl⟩ := ih h
            exact ⟨_, _, .cons (.escape hspells) hpieces, by simp, by simp⟩
        case isFalse hbackslash =>
          split at h
          case isTrue => cases h
          case isFalse hcontrol =>
            obtain ⟨spelled, meant, hpieces, rfl, rfl⟩ := ih h
            have hcontrol : 0x20 ≤ b.toNat := by
              rw [UInt8.lt_iff_toNat_lt] at hcontrol
              exact Nat.not_lt.mp hcontrol
            exact ⟨_, _, .cons (.plain hcontrol hquote hbackslash) hpieces, by simp, by simp⟩

/-- Bytes that begin no character come from bytes that mean themselves. -/
theorem exists_pieces_of_continuation {spelled meant : List (List UInt8)} {tail : List UInt8}
    (hpieces : List.Forall₂ Piece spelled meant) (h : meant.flatten = bytes ++ tail)
    (continues : ∀ b ∈ bytes, ¬b.IsUTF8FirstByte) :
    ∃ spelled' meant', List.Forall₂ Piece spelled' meant' ∧ meant'.flatten = tail ∧
      spelled.flatten = bytes ++ spelled'.flatten := by
  induction bytes generalizing spelled meant with
  | nil => exact ⟨spelled, meant, hpieces, h, rfl⟩
  | cons b bytes ih =>
    obtain ⟨hb, hrest⟩ := List.forall_mem_cons.mp continues
    cases hpieces with
    | nil => cases h
    | cons hpiece hpieces =>
      cases hpiece with
      | plain =>
        obtain ⟨rfl, hflatten⟩ := List.cons.inj h
        obtain ⟨spelled', meant', hpieces', hmeant', hspelled'⟩ := ih hpieces hflatten hrest
        exact ⟨spelled', meant', hpieces', hmeant', by simp [hspelled']⟩
      | @escape c bytes spelled =>
        obtain ⟨first, others, hchar, hfirst, -⟩ := Utf8.exists_utf8EncodeChar_eq_cons c
        rw [List.flatten_cons, hchar] at h
        obtain ⟨rfl, -⟩ := List.cons.inj h
        exact absurd hfirst hb

/-- A character whose bytes mean themselves may stand for itself. -/
theorem spellsChar_of_plain {c : Char} {first : UInt8}
    (hfirst : (String.utf8EncodeChar c).head? = some first) (control : 0x20 ≤ first.toNat)
    (quote : first ≠ 0x22) (backslash : first ≠ 0x5C) :
    SpellsChar c (String.utf8EncodeChar c) := by
  by_cases hascii : c.toNat < 0x80
  · rw [Utf8.utf8EncodeChar_of_ascii hascii] at hfirst
    obtain rfl := Option.some.inj hfirst
    refine .itself ?_ ?_ ?_
    · rw [UInt8.toNat_ofNat'] at control
      omega
    · rintro rfl
      exact quote rfl
    · rintro rfl
      exact backslash rfl
  · refine .itself (by omega) ?_ ?_
    · rintro rfl
      exact hascii (by decide)
    · rintro rfl
      exact hascii (by decide)

/-- Pieces that mean characters spell them. -/
theorem spellsChars_of_pieces {spelled meant : List (List UInt8)} {chars : List Char}
    (hpieces : List.Forall₂ Piece spelled meant)
    (h : meant.flatten = chars.flatMap String.utf8EncodeChar) :
    SpellsChars chars spelled.flatten := by
  induction chars generalizing spelled meant with
  | nil =>
    cases hpieces with
    | nil => exact ⟨[], .nil, rfl⟩
    | cons hpiece =>
      cases hpiece with
      | plain => cases h
      | escape => simp [String.utf8EncodeChar_ne_nil] at h
  | cons c chars ih =>
    rw [List.flatMap_cons] at h
    have hcons {bytes rest : List UInt8} (hc : SpellsChar c bytes)
        (hrest : SpellsChars chars rest) : SpellsChars (c :: chars) (bytes ++ rest) := by
      obtain ⟨parts, hparts, rfl⟩ := hrest
      exact ⟨bytes :: parts, .cons hc hparts, rfl⟩
    cases hpieces with
    | nil => simp [String.utf8EncodeChar_ne_nil] at h
    | cons hpiece hpieces =>
      cases hpiece with
      | escape hspells =>
        obtain ⟨rfl, hflatten⟩ := Utf8.utf8EncodeChar_append_inj h
        exact hcons hspells (ih hpieces hflatten)
      | @plain b control quote backslash =>
        -- The byte begins a character whose other bytes can only come from bytes again.
        obtain ⟨first, others, hchar, -, hothers⟩ := Utf8.exists_utf8EncodeChar_eq_cons c
        rw [hchar] at h
        obtain ⟨rfl, hflatten⟩ := List.cons.inj h
        obtain ⟨spelled', meant', hpieces', hmeant', hspelled'⟩ :=
          exists_pieces_of_continuation hpieces hflatten hothers
        have hc := spellsChar_of_plain (by rw [hchar]; rfl) control quote backslash
        rw [hchar] at hc
        simpa [hspelled'] using hcons hc (ih hpieces' hmeant')

/-- What the reader takes for a text is spelled as one, up to its closing quote. -/
theorem spellsChars_of_readText {text : String} (h : readText s = .ok (text, rest)) :
    ∃ inner, SpellsChars text.toList inner ∧ s = inner ++ 0x22 :: rest := by
  unfold readText at h
  split at h
  case h_1 => cases h
  case h_2 contents left hcontents =>
    split at h
    case h_1 decoded hdecode =>
      cases h
      obtain ⟨spelled, meant, hpieces, rfl, hs⟩ := exists_pieces_of_readContents hcontents
      have hencode := Utf8.eq_encode_of_decode? hdecode
      rw [← String.ofList_toList (s := text), Utf8.encode_ofList, List.reverse_nil,
        List.nil_append] at hencode
      exact ⟨_, spellsChars_of_pieces hpieces hencode, hs⟩
    case h_2 => cases h

end HealthPanel.Json
