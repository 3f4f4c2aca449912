import HealthPanel.Json.Writer
import HealthPanel.Proofs.Yaml.ScalarsOnLine

/-!
# Scalars of JSON inside a flow

Between double quotes JSON and YAML escape alike what has to be escaped among the printable ASCII
characters, the quote and the backslash. All others stand for themselves, and so do the blanks
between two words. A natural number is a word that ends at the next sign of the flow.
-/

namespace HealthPanel.Yaml

variable {c : Char} {chars rest : List Char} {mark : Mark}

/-- A printable ASCII character. -/
def IsPrintable (c : Char) : Prop :=
  0x20 ≤ c.toNat ∧ c.toNat ≤ 0x7E

instance (c : Char) : Decidable (IsPrintable c) :=
  inferInstanceAs (Decidable (_ ∧ _))

namespace IsPrintable

/-- A printable character is allowed. -/
theorem isAllowed (h : IsPrintable c) : isAllowed c := by
  simp [Yaml.isAllowed, h.1, h.2]

/-- A printable character breaks no line. -/
theorem isBreak_eq_false (h : IsPrintable c) : isBreak c = false :=
  isBreak_of_range h

/-- Of the printable characters only the space is a blank. -/
theorem isBlank_eq_false (h : IsPrintable c) (space : c ≠ ' ') : isBlank c = false := by
  have htab : c ≠ '\t' := by
    rintro rfl
    exact absurd h (by decide)
  simp [isBlank, space, htab]

/-- Only the quote and the backslash are escaped, each by a backslash before it. -/
theorem escape_eq (h : IsPrintable c) :
    Json.escape c = if c = '"' ∨ c = '\\' then ['\\', c] else [c] := by
  have hcontrol : ¬c.toNat < 0x20 := Nat.not_lt.mpr h.1
  unfold Json.escape
  split <;> first | rfl | exact absurd h (by decide) | skip
  case h_8 quote backslash _ _ _ _ _ =>
    have hneither : ¬(c = '"' ∨ c = '\\') := not_or.mpr ⟨quote, backslash⟩
    rw [if_neg hcontrol, if_neg hneither]

/-- A printable character is written as something. -/
theorem escape_ne_nil (h : IsPrintable c) : Json.escape c ≠ [] := by
  rw [h.escape_eq]
  split <;> exact List.cons_ne_nil _ _

/-- What is written of a printable character other than the space is read as the character. -/
theorem isReadBack (h : IsPrintable c) (space : c ≠ ' ') : IsReadBack Json.escape c := by
  intro rest fuel mark
  rw [h.escape_eq]
  split
  case isTrue special =>
    have hescaped : readEscape? ⟨c :: rest, mark.right 1⟩ = some (c, ⟨rest, mark.right 2⟩) := by
      rcases special with rfl | rfl <;> rfl
    exact readRun?_backslash h.isBreak_eq_false hescaped fuel
  case isFalse plain =>
    obtain ⟨hquote, hbackslash⟩ := not_or.mp plain
    exact readRun?_itself (h.isBlank_eq_false space) h.isBreak_eq_false hquote hbackslash rest fuel
      mark

end IsPrintable

/-! ## Texts -/

/-- A character that is neither a blank nor a line break ends a gap between words. -/
theorem readGap?_of_spaces (ends : ∀ c ∈ rest.head?, isBlank c = false ∧ isBreak c = false)
    {fuel count : Nat} (enough : count ≤ fuel) (blanks : List Char) (mark : Mark) :
    readGap? 0 fuel ⟨blanks, []⟩ ⟨List.replicate count ' ' ++ rest, mark⟩ =
      some (⟨blanks ++ List.replicate count ' ', []⟩, ⟨rest, mark.right count⟩) := by
  induction count generalizing fuel blanks mark with
  | zero =>
    obtain _ | fuel := fuel
    · simp [readGap?, Mark.right]
    cases rest with
    | nil => simp [readGap?, Cursor.takeBreak?, Cursor.peek?, Mark.right]
    | cons c rest =>
      obtain ⟨hblank, hbreak⟩ := ends c rfl
      have hnone : (⟨c :: rest, mark⟩ : Cursor).takeBreak? = none :=
        Cursor.takeBreak?_eq_none hbreak
      simp [readGap?, hnone, Cursor.peek?, hblank, Mark.right]
  | succ count ih =>
    obtain ⟨fuel, rfl⟩ := Nat.exists_eq_add_of_le' enough
    have hbreak : (⟨' ' :: (List.replicate count ' ' ++ rest), mark⟩ : Cursor).takeBreak? = none :=
      rfl
    have hskip : (⟨' ' :: (List.replicate count ' ' ++ rest), mark⟩ : Cursor).skip 1 =
        ⟨List.replicate count ' ' ++ rest, mark.right 1⟩ := rfl
    rw [List.replicate_succ, List.cons_append, ← Nat.add_assoc, readGap?, hbreak]
    simp only [Cursor.peek?, List.drop_zero, List.head?_cons, hskip]
    rw [if_neg (by decide), if_pos (by rfl), ih (by omega)]
    simp [Mark.right, Nat.add_assoc, Nat.add_comm 1]

/-- The first word of a text, the spaces behind it, and what begins with the next word. -/
theorem exists_first_word (chars : List Char) :
    ∃ word count others, chars = word ++ (List.replicate count ' ' ++ others) ∧
      (∀ c ∈ word, c ≠ ' ') ∧ others.head? ≠ some ' ' ∧ (count = 0 → others = []) := by
  induction chars with
  | nil => exact ⟨[], 0, [], rfl, by simp, by simp, fun _ => rfl⟩
  | cons c chars ih =>
    obtain ⟨word, count, others, rfl, hword, hothers, hcount⟩ := ih
    by_cases hspace : c = ' '
    · subst hspace
      cases word with
      | nil => exact ⟨[], count + 1, others, rfl, by simp, hothers, fun h => nomatch h⟩
      | cons first word =>
        have hfirst : (first :: word ++ (List.replicate count ' ' ++ others)).head? ≠ some ' ' :=
          fun h => hword first List.mem_cons_self (Option.some.inj h)
        exact ⟨[], 1, _, rfl, by simp, hfirst, fun h => nomatch h⟩
    · have hall : ∀ d ∈ c :: word, d ≠ ' ' := by
        intro d hd
        rcases List.mem_cons.mp hd with rfl | hrest
        · exact hspace
        · exact hword d hrest
      exact ⟨c :: word, count, others, rfl, hall, hothers, hcount⟩

/-- A word that is written begins with a character that ends the gap before it, and so does the
quote behind a text. -/
theorem ends_gap_before_word (printable : ∀ c ∈ chars, IsPrintable c)
    (space : chars.head? ≠ some ' ') (rest : List Char) :
    ∀ c ∈ (chars.flatMap Json.escape ++ '"' :: rest).head?,
      isBlank c = false ∧ isBreak c = false := by
  cases chars with
  | nil =>
    rintro c ⟨⟩
    decide
  | cons first chars =>
    have hfirst := printable first List.mem_cons_self
    have hspace : first ≠ ' ' := fun h => space (congrArg some h)
    rw [List.flatMap_cons, hfirst.escape_eq]
    split
    case isTrue =>
      rintro c ⟨⟩
      decide
    case isFalse =>
      rintro c ⟨⟩
      exact ⟨hfirst.isBlank_eq_false hspace, hfirst.isBreak_eq_false⟩

/-- The first word of a text is read up to the spaces or the quote behind it. -/
theorem readRun?_word {word : List Char} {finish : RunEnd} (printable : ∀ c ∈ word, IsPrintable c)
    (space : ∀ c ∈ word, c ≠ ' ') (nonempty : rest ≠ [])
    (stops : ∀ fuel mark,
      readRun? false (fuel + 1) ⟨rest, mark⟩ = some ([], finish, ⟨rest, mark⟩)) :
    readRun? false (word.flatMap Json.escape ++ rest).length
        ⟨word.flatMap Json.escape ++ rest, mark⟩ =
      some (word, finish, ⟨rest, mark.right (word.flatMap Json.escape).length⟩) := by
  have hlength := length_le_length_flatMap fun c hc => (printable c hc).escape_ne_nil
  have hrest := List.length_pos_of_ne_nil nonempty
  apply readRun?_flatMap (fun c hc => (printable c hc).isReadBack (space c hc)) stops
  rw [List.length_append]
  omega

/-- Printable characters are read up to the quote behind them, one word after another. -/
theorem readQuotedText?_of_printable (printable : ∀ c ∈ chars, IsPrintable c) {fuel : Nat}
    (enough : chars.length < fuel) (inside : mark.column ≠ 0) (done : List Char) :
    readQuotedText? false fuel done ⟨chars.flatMap Json.escape ++ '"' :: rest, mark⟩ =
      some (done ++ chars, ⟨rest, mark.right ((chars.flatMap Json.escape).length + 1)⟩) := by
  induction fuel generalizing chars done mark with
  | zero => exact absurd enough (Nat.not_lt_zero _)
  | succ fuel ih =>
    have hdelimiter (text : List Char) : (⟨text, mark⟩ : Cursor).seesDelimiter = false := by
      simp [Cursor.seesDelimiter, Cursor.seesThree, inside]
    obtain ⟨word, count, others, rfl, hword, hothers, hcount⟩ := exists_first_word chars
    have hprintable : ∀ c ∈ word, IsPrintable c := fun c hc =>
      printable c (List.mem_append_left _ hc)
    cases count with
    | zero =>
      obtain rfl := hcount rfl
      have hrun : readRun? false (word.flatMap Json.escape ++ '"' :: rest).length
          ⟨word.flatMap Json.escape ++ '"' :: rest, mark⟩ = some (word, .quote, _) :=
        readRun?_word hprintable hword (List.cons_ne_nil _ _) fun _ _ => rfl
      rw [List.replicate_zero, List.append_nil, List.append_nil, readQuotedText?, hdelimiter, hrun]
      simp [Cursor.skip, Mark.right, Nat.add_assoc]
    | succ count =>
      have hrest : ∀ c ∈ others, IsPrintable c := fun c hc =>
        printable c (List.mem_append_right _ (List.mem_append_right _ hc))
      have hspaces : (List.replicate (count + 1) ' ').flatMap Json.escape =
          List.replicate (count + 1) ' ' := by
        rw [List.flatMap_replicate]
        exact List.flatten_replicate_singleton
      let behind := others.flatMap Json.escape ++ '"' :: rest
      have hrun : readRun? false
          (word.flatMap Json.escape ++ (List.replicate (count + 1) ' ' ++ behind)).length
          ⟨word.flatMap Json.escape ++ (List.replicate (count + 1) ' ' ++ behind), mark⟩ =
            some (word, .gap, ⟨List.replicate (count + 1) ' ' ++ behind, _⟩) :=
        readRun?_word hprintable hword (List.cons_ne_nil _ _) fun _ _ => rfl
      have henough : count + 1 ≤ (List.replicate (count + 1) ' ' ++ behind).length := by
        simp
      have hgap := readGap?_of_spaces (ends_gap_before_word hrest hothers rest) henough []
        (mark.right (word.flatMap Json.escape).length)
      have hshort : others.length < fuel := by
        simp only [List.length_append, List.length_replicate] at enough
        omega
      have hcolumn : ((mark.right (word.flatMap Json.escape).length).right
          (count + 1)).column ≠ 0 := by
        simp [Mark.right]
      have hread := ih hrest hshort hcolumn (done ++ word ++ List.replicate (count + 1) ' ')
      simp only [List.flatMap_append, hspaces, List.append_assoc]
      rw [readQuotedText?, hdelimiter, hrun, Bool.false_or, if_neg (by simp)]
      simp only [Option.bind_eq_bind, Option.bind_some, Gap.empty]
      rw [hgap]
      refine hread.trans ?_
      simp [Mark.right, Nat.add_assoc]

/-- The characters of a text between its quotes. -/
theorem toList_quoted (text : String) :
    (Json.quoted text).toList = '"' :: (text.toList.flatMap Json.escape ++ ['"']) := by
  simp [Json.quoted]

/-- A text of printable characters is read as JSON writes it. -/
theorem readQuoted?_quoted {text : String} (printable : ∀ c ∈ text.toList, IsPrintable c)
    (rest : List Char) (mark : Mark) :
    readQuoted? false ⟨(Json.quoted text).toList ++ rest, mark⟩ =
      some (⟨.doubleQuoted, text, false⟩,
        ⟨rest, mark.right (Json.quoted text).toList.length⟩) := by
  have hchars : (Json.quoted text).toList ++ rest =
      '"' :: (text.toList.flatMap Json.escape ++ '"' :: rest) := by
    simp [toList_quoted]
  have hskip : (⟨'"' :: (text.toList.flatMap Json.escape ++ '"' :: rest), mark⟩ : Cursor).skip 1 =
      ⟨text.toList.flatMap Json.escape ++ '"' :: rest, mark.right 1⟩ := rfl
  have henough : text.toList.length <
      ('"' :: (text.toList.flatMap Json.escape ++ '"' :: rest)).length + 1 := by
    have hle := length_le_length_flatMap fun c hc => (printable c hc).escape_ne_nil
    simp only [List.length_cons, List.length_append]
    omega
  have hinside : (mark.right 1).column ≠ 0 := Nat.succ_ne_zero _
  have hread : readQuotedText? false _ []
      ⟨text.toList.flatMap Json.escape ++ '"' :: rest, mark.right 1⟩ = _ :=
    readQuotedText?_of_printable printable henough hinside []
  rw [readQuoted?, hchars, hskip, hread]
  simp [toList_quoted, Mark.right, Nat.add_assoc, Nat.add_comm 1]

/-- A text that may be a key as JSON writes it: it is printable and, quoted, not too long. -/
structure IsFlowKey (name : String) : Prop where
  printable : ∀ c ∈ name.toList, IsPrintable c
  short : (Json.quoted name).toList.length ≤ 1024

instance (name : String) : Decidable (IsFlowKey name) :=
  decidable_of_iff ((∀ c ∈ name.toList, IsPrintable c) ∧ (Json.quoted name).toList.length ≤ 1024)
    ⟨fun h => ⟨h.1, h.2⟩, fun h => ⟨h.printable, h.short⟩⟩

/-! ## Numbers -/

/-- A sign of a flow ends a word. -/
theorem plainWord?_sign (h : c = ',' ∨ c = '\x7d') : plainWord? true (c :: rest) = some [] := by
  rcases h with rfl | rfl <;> rfl

/-- A word is read up to the sign of the flow behind it. -/
theorem readPlain?_flow {word : List Char} (h : IsWord word) (sign : c = ',' ∨ c = '\x7d')
    (indent : Nat) :
    readPlain? true indent ⟨word ++ c :: rest, mark⟩ =
      some (⟨.plain, String.ofList word, false⟩, ⟨c :: rest, mark.right word.length⟩) := by
  have hplain : plainWord? true (word ++ c :: rest) = some word :=
    plainWord?_append h.2 (plainWord?_sign sign)
  have hend : endsWord (some c) = false := by
    rcases sign with rfl | rfl <;> rfl
  rw [readPlain?, readPlainWords?_word h hplain]
  simp [hend, Gap.empty, Gap.isBroken]

end HealthPanel.Yaml
