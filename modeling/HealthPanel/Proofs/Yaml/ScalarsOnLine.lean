import HealthPanel.Proofs.Yaml.Layout
import Mathlib.Data.Option.Basic

/-!
# Scalars on a line

A word is read up to the colon after it, or over the end of its line to the next key, and a text
between double quotes is read back from what it is written as.
-/

namespace HealthPanel.Yaml

open HealthPanel.Text (hexDigit)

variable {c : Char} {text : List Char}

/-! ## Words -/

variable {word : List Char} {mark : Mark} {inFlow : Bool}

/-- A character of a word is none of some signs. -/
theorem not_contains_of_isWordChar (h : isWordChar c) {signs : List Char}
    (areSigns : ∀ d ∈ signs, isWordChar d = false) : signs.contains c = false := by
  rw [← Bool.not_eq_true, List.contains_iff_mem]
  exact fun hmem => absurd h (by simp [areSigns c hmem])

/-- A word ends where a plain scalar has to end. -/
theorem plainWord?_append (hword : ∀ c ∈ word, isWordChar c)
    (hend : plainWord? inFlow text = some []) : plainWord? inFlow (word ++ text) = some word := by
  induction word with
  | nil => exact hend
  | cons c word ih =>
    rw [List.forall_mem_cons] at hword
    have hcolon : c ≠ ':' := ne_of_isWordChar hword.1 (by decide)
    have hsigns : ",[]\x7b\x7d".toList.contains c = false :=
      not_contains_of_isWordChar hword.1 (by decide)
    rw [List.cons_append, plainWord?, isBlank_of_isWordChar hword.1, isBreak_of_isWordChar hword.1,
      hsigns, ih hword.2]
    simp [hcolon]

/-- A word is no comment, and delimits no document. -/
theorem seesDelimiter_of_isWord (h : IsWord word) :
    (⟨word ++ text, mark⟩ : Cursor).seesDelimiter = false ∧
      (⟨word ++ text, mark⟩ : Cursor).sees '#' = false := by
  obtain ⟨hne, hword⟩ := h
  obtain _ | ⟨c, rest⟩ := word
  · exact absurd rfl hne
  have hc := hword c List.mem_cons_self
  have hdash : c ≠ '-' := ne_of_isWordChar hc (by decide)
  have hpoint : c ≠ '.' := ne_of_isWordChar hc (by decide)
  have hsign : c ≠ '#' := ne_of_isWordChar hc (by decide)
  simp [Cursor.seesDelimiter, Cursor.seesThree, Cursor.sees, Cursor.peek?, hdash, hpoint, hsign]

/-- A word starts a token. -/
theorem startsToken_of_isWord (h : IsWord word) : StartsToken (word ++ text) := by
  obtain ⟨hne, hword⟩ := h
  obtain _ | ⟨c, rest⟩ := word
  · exact absurd rfl hne
  · exact startsToken_of_isWordChar (hword c List.mem_cons_self)

/-- A word has a first character. -/
theorem exists_head?_of_isWord (h : IsWord word) : ∃ c, (word ++ text).head? = some c := by
  obtain ⟨hne, -⟩ := h
  cases word with
  | nil => exact absurd rfl hne
  | cons c rest => exact ⟨c, rfl⟩

/-- What is skipped moves the place to the right. -/
theorem skip_append (front back : List Char) :
    (⟨front ++ back, mark⟩ : Cursor).skip front.length = ⟨back, mark.right front.length⟩ := by
  simp [Cursor.skip]

/-- The first word of a plain scalar is read, and then the gap after it unless something else
than a blank or a line break comes next. -/
theorem readPlainWords?_word (h : IsWord word)
    (hplain : plainWord? inFlow (word ++ text) = some word) (indent fuel : Nat) :
    readPlainWords? inFlow indent (fuel + 1) ⟨[], .empty⟩ ⟨word ++ text, mark⟩ =
      if text.head?.isNone || endsWord text.head? = false then
        some (⟨word, .empty⟩, ⟨text, mark.right word.length⟩)
      else
        (readGap? indent text.length .empty ⟨text, mark.right word.length⟩).bind
          fun (gap, cursor) =>
            if inFlow = false ∧ cursor.mark.column < indent then some (⟨word, gap⟩, cursor)
            else readPlainWords? inFlow indent fuel ⟨word, gap⟩ cursor := by
  obtain ⟨hdelimiter, hcomment⟩ : (⟨word ++ text, mark⟩ : Cursor).seesDelimiter = false ∧
      (⟨word ++ text, mark⟩ : Cursor).sees '#' = false := seesDelimiter_of_isWord h
  have hadd : PlainDraft.add ⟨[], .empty⟩ word = ⟨word, .empty⟩ := by
    simp [PlainDraft.add, h.1, Gap.empty, Gap.fold]
  rw [readPlainWords?, hdelimiter, hcomment]
  simp only [Bool.or_self, Bool.false_eq_true, if_false, hplain, Option.bind_eq_bind,
    Option.bind_some, skip_append, hadd, Cursor.peek?, List.drop_zero, Option.pure_def]

/-- A word before a colon is read up to that. -/
theorem readPlain?_key (h : IsWord word) (hend : endsWord text.head?) (indent : Nat) :
    readPlain? false indent ⟨word ++ ':' :: text, mark⟩ =
      some (⟨.plain, String.ofList word, false⟩, ⟨':' :: text, mark.right word.length⟩) := by
  have hplain : plainWord? false (word ++ ':' :: text) = some word :=
    plainWord?_append h.2 (by simp [plainWord?, hend])
  rw [readPlain?, readPlainWords?_word h hplain]
  rfl

/-- The blanks after a line break are passed over. -/
theorem readGap?_of_blanks (starts : StartsToken text) {indent fuel count : Nat} {gap : Gap}
    (broken : gap.isBroken) (enough : count ≤ fuel) :
    readGap? indent fuel gap ⟨List.replicate count ' ' ++ text, mark⟩ =
      some (gap, ⟨text, mark.right count⟩) := by
  induction count generalizing fuel mark with
  | zero =>
    obtain _ | fuel := fuel
    · rfl
    cases text with
    | nil => rfl
    | cons c text =>
      have hbreak : (⟨c :: text, mark⟩ : Cursor).takeBreak? = none :=
        Cursor.takeBreak?_of_startsToken starts
      have hblank := (starts c rfl).1
      simp only [List.replicate_zero, List.nil_append, readGap?, hbreak, Cursor.peek?,
        List.drop_zero, List.head?_cons, hblank, if_true]
      rfl
  | succ count ih =>
    obtain ⟨fuel, rfl⟩ := Nat.exists_eq_add_of_le' enough
    have hbreak : (⟨' ' :: (List.replicate count ' ' ++ text), mark⟩ : Cursor).takeBreak? = none :=
      rfl
    have hright : (mark.right 1).right count = mark.right (count + 1) := by
      simp [Mark.right, Nat.add_assoc, Nat.add_comm 1]
    have hskip : (⟨' ' :: (List.replicate count ' ' ++ text), mark⟩ : Cursor).skip 1 =
        ⟨List.replicate count ' ' ++ text, mark.right 1⟩ := rfl
    rw [List.replicate_succ, List.cons_append, ← Nat.add_assoc, readGap?, hbreak]
    simp only [Cursor.peek?, List.drop_zero, List.head?_cons, broken, hskip]
    rw [if_neg (by decide), if_neg (by decide), if_neg (by simp), ih (by omega), hright]

/-- A word at the end of a line is read up to the next line, if that starts left of the value. -/
theorem readPlain?_value (h : IsWord word) (starts : StartsToken text) {indent count : Nat}
    (outside : count < indent) :
    readPlain? false indent ⟨word ++ '\n' :: (List.replicate count ' ' ++ text), mark⟩ =
      some (⟨.plain, String.ofList word, true⟩,
        ⟨text, ((mark.right word.length).down 1).right count⟩) := by
  have hplain : plainWord? false (word ++ '\n' :: (List.replicate count ' ' ++ text)) = some word :=
    plainWord?_append h.2 rfl
  have hend : endsWord (some '\n') = true := rfl
  have hgap : readGap? indent ('\n' :: (List.replicate count ' ' ++ text)).length .empty
      ⟨'\n' :: (List.replicate count ' ' ++ text), mark.right word.length⟩ =
        some (⟨[], ['\n']⟩, ⟨text, ((mark.right word.length).down 1).right count⟩) :=
    readGap?_of_blanks starts rfl (by simp)
  have hcolumn : (((mark.right word.length).down 1).right count).column < indent := by
    simpa [Mark.right, Mark.down] using outside
  rw [readPlain?, readPlainWords?_word h hplain, hgap]
  simp [hend, hcolumn, Gap.isBroken]

/-! ## Quoted texts -/

/-- A hexadecimal digit is a character of ASCII. -/
theorem toNat_hexDigit_lt : ∀ n < 16, (hexDigit n).toNat < 128 := by
  decide

/-- A hexadecimal digit is allowed. -/
theorem isAllowed_hexDigit : ∀ n < 16, isAllowed (hexDigit n) := by
  decide

/-- What a character is written as may stand in a text. -/
theorem isAllowed_escape : ∀ d ∈ escape c, isAllowed d := by
  unfold escape
  split
  case isTrue itself =>
    simp only [standsForItself, Bool.and_eq_true] at itself
    simpa using itself.1.1.1.1
  case isFalse =>
    have hdigits : ∀ d ∈ numberDigits c, isAllowed d := by
      intro d hd
      obtain ⟨place, -, rfl⟩ := List.mem_map.mp hd
      exact isAllowed_hexDigit _ (Nat.mod_lt _ (by decide))
    simpa using ⟨by decide, by decide, hdigits⟩

/-- A hexadecimal digit is read behind those before it. -/
theorem hexNumber?_cons {digit : Nat} (h : digit < 16) (n : Nat) (rest : List Char) :
    hexNumber? n (hexDigit digit :: rest) = hexNumber? (n * 16 + digit) rest := by
  simp [hexNumber?, toNat_hexDigit_lt digit h, Text.hexValue?_hexDigit digit h]

/-- The digits of a character write its number. -/
theorem hexNumber?_numberDigits (c : Char) : hexNumber? 0 (numberDigits c) = some c.toNat := by
  have hlt : c.toNat < 0x110000 := c.valid.elim (fun h => Nat.lt_trans h (by decide)) And.right
  have hdigit (place : Nat) : c.toNat >>> place % 16 < 16 := Nat.mod_lt _ (by decide)
  have hstep (place : Nat) :
      c.toNat >>> (place + 4) * 16 + c.toNat >>> place % 16 = c.toNat >>> place := by
    rw [Nat.shiftRight_add, Nat.shiftRight_eq_div_pow _ 4]
    exact Nat.div_add_mod' _ _
  have hstart : c.toNat >>> 32 = 0 := by
    rw [Nat.shiftRight_eq_div_pow]
    exact Nat.div_eq_of_lt (Nat.lt_trans hlt (by decide))
  have hfirst := hstep 28
  rw [hstart] at hfirst
  simp only [numberDigits, List.map_cons, List.map_nil, hexNumber?_cons (hdigit _)]
  rw [hfirst, hstep 24, hstep 20, hstep 16, hstep 12, hstep 8, hstep 4, hstep 0,
    Nat.shiftRight_zero, hexNumber?]

/-- The number of a character is read as that. -/
theorem readEscape?_numberDigits (c : Char) (rest : List Char) (mark : Mark) :
    readEscape? ⟨'U' :: (numberDigits c ++ rest), mark⟩ = some (c, ⟨rest, mark.right 9⟩) := by
  have hpoint : codePoint? c.toNat = some c := by
    rw [codePoint?, if_pos (show c.toNat.isValidChar from c.valid), Char.ofNat_toNat]
  have hlength : (numberDigits c).length = 8 := rfl
  have htake : (numberDigits c ++ rest).take 8 = numberDigits c := List.take_left' hlength
  have hdrop : (numberDigits c ++ rest).drop 8 = rest := List.drop_left' hlength
  simp [readEscape?, Cursor.peek?, Cursor.skip, escapeDigits?, htake, hdrop, hlength,
    hexNumber?_numberDigits, hpoint, Mark.right, Nat.add_assoc]

/-- A character is read from what it is written as, and the run goes on behind that. -/
def IsReadBack (write : Char → List Char) (c : Char) : Prop :=
  ∀ rest fuel mark, readRun? false (fuel + 1) ⟨write c ++ rest, mark⟩ =
    (readRun? false fuel ⟨rest, mark.right (write c).length⟩).map fun (run, finish, cursor) =>
      (c :: run, finish, cursor)

/-- A character that means nothing between double quotes is read as itself. -/
theorem readRun?_itself (blank : isBlank c = false) (lineBreak : isBreak c = false)
    (quote : c ≠ '"') (backslash : c ≠ '\\') (rest : List Char) (fuel : Nat) (mark : Mark) :
    readRun? false (fuel + 1) ⟨c :: rest, mark⟩ =
      (readRun? false fuel ⟨rest, mark.right 1⟩).map fun (run, finish, cursor) =>
        (c :: run, finish, cursor) := by
  have hskip : (⟨c :: rest, mark⟩ : Cursor).skip 1 = ⟨rest, mark.right 1⟩ := rfl
  rw [readRun?]
  simp only [Cursor.peek?, List.drop_zero, List.head?_cons, blank, lineBreak, quote, backslash,
    hskip, Bool.or_self, Bool.false_eq_true, if_false]
  cases readRun? false fuel ⟨rest, mark.right 1⟩ <;> rfl

/-- An escape that does not stand before a line break is read as the character it stands for. -/
theorem readRun?_backslash {letter : Char} {rest left : List Char} {width : Nat} {mark : Mark}
    (lineBreak : isBreak letter = false)
    (escaped : readEscape? ⟨letter :: rest, mark.right 1⟩ =
      some (c, ⟨left, mark.right (width + 1)⟩)) (fuel : Nat) :
    readRun? false (fuel + 1) ⟨'\\' :: letter :: rest, mark⟩ =
      (readRun? false fuel ⟨left, mark.right (width + 1)⟩).map fun (run, finish, cursor) =>
        (c :: run, finish, cursor) := by
  have hskip : (⟨'\\' :: letter :: rest, mark⟩ : Cursor).skip 1 =
      ⟨letter :: rest, mark.right 1⟩ := rfl
  rw [readRun?]
  simp only [Cursor.peek?, List.drop_zero, List.drop_succ_cons, List.head?_cons, Option.any_some,
    lineBreak, hskip, escaped]
  rw [if_neg (by decide), if_neg (by decide), if_neg (by decide), if_pos trivial,
    if_neg (by decide)]
  change (readRun? false fuel ⟨left, mark.right (width + 1)⟩).bind _ =
    (readRun? false fuel ⟨left, mark.right (width + 1)⟩).map _
  cases readRun? false fuel ⟨left, mark.right (width + 1)⟩ <;> rfl

/-- Every character is read back from its escape. -/
theorem isReadBack_escape (c : Char) : IsReadBack escape c := by
  intro rest fuel mark
  unfold escape
  split
  case isTrue itself =>
    simp only [standsForItself, Bool.and_eq_true, Bool.not_eq_true', decide_eq_true_eq] at itself
    obtain ⟨⟨⟨⟨-, hblank⟩, hbreak⟩, hquote⟩, hbackslash⟩ := itself
    exact readRun?_itself hblank hbreak hquote hbackslash rest fuel mark
  case isFalse =>
    exact readRun?_backslash (by decide) (readEscape?_numberDigits c rest (mark.right 1)) fuel

/-- Characters that are read back are read up to where the run ends. -/
theorem readRun?_flatMap {write : Char → List Char} {chars rest : List Char} {finish : RunEnd}
    (back : ∀ c ∈ chars, IsReadBack write c)
    (stops : ∀ fuel mark, readRun? false (fuel + 1) ⟨rest, mark⟩ = some ([], finish, ⟨rest, mark⟩))
    {fuel : Nat} (enough : chars.length < fuel) (mark : Mark) :
    readRun? false fuel ⟨chars.flatMap write ++ rest, mark⟩ =
      some (chars, finish, ⟨rest, mark.right (chars.flatMap write).length⟩) := by
  induction chars generalizing fuel mark with
  | nil =>
    obtain _ | fuel := fuel
    · simp at enough
    · exact stops fuel mark
  | cons c chars ih =>
    obtain _ | fuel := fuel
    · simp at enough
    rw [List.forall_mem_cons] at back
    rw [List.flatMap_cons, List.append_assoc, back.1, ih back.2 (Nat.lt_of_succ_lt_succ enough)]
    simp [Mark.right, Nat.add_assoc]

/-- If something is written of every character, then no less than there are characters. -/
theorem length_le_length_flatMap {write : Char → List Char} {chars : List Char}
    (written : ∀ c ∈ chars, write c ≠ []) : chars.length ≤ (chars.flatMap write).length := by
  induction chars with
  | nil => exact Nat.le_refl 0
  | cons c chars ih =>
    rw [List.forall_mem_cons] at written
    have hpos := List.length_pos_of_ne_nil written.1
    have hle := ih written.2
    rw [List.flatMap_cons, List.length_append, List.length_cons]
    omega

/-- Every character is written as something. -/
theorem escape_ne_nil (c : Char) : escape c ≠ [] := by
  unfold escape
  split <;> exact List.cons_ne_nil _ _

/-- A text between double quotes is read back. -/
theorem readQuoted?_escape (text rest : List Char) (mark : Mark) :
    readQuoted? false ⟨'"' :: (text.flatMap escape ++ '"' :: rest), mark⟩ =
      some (⟨.doubleQuoted, String.ofList text, false⟩,
        ⟨rest, mark.right ((text.flatMap escape).length + 2)⟩) := by
  have hskip : (⟨'"' :: (text.flatMap escape ++ '"' :: rest), mark⟩ : Cursor).skip 1 =
      ⟨text.flatMap escape ++ '"' :: rest, mark.right 1⟩ := rfl
  have hdelimiter : (⟨text.flatMap escape ++ '"' :: rest, mark.right 1⟩ : Cursor).seesDelimiter =
      false := by
    simp [Cursor.seesDelimiter, Cursor.seesThree, Mark.right]
  have henough : text.length < (text.flatMap escape ++ '"' :: rest).length := by
    have hle := length_le_length_flatMap fun c (_ : c ∈ text) => escape_ne_nil c
    rw [List.length_append, List.length_cons]
    omega
  have hrun : readRun? false (text.flatMap escape ++ '"' :: rest).length
      ⟨text.flatMap escape ++ '"' :: rest, mark.right 1⟩ =
        some (text, .quote, ⟨'"' :: rest, (mark.right 1).right (text.flatMap escape).length⟩) :=
    readRun?_flatMap (fun c _ => isReadBack_escape c) (fun _ _ => rfl) henough _
  rw [readQuoted?, hskip, readQuotedText?, hdelimiter, hrun]
  simp [Cursor.skip, Mark.right, Nat.add_assoc, Nat.add_comm 1]

end HealthPanel.Yaml
