import HealthPanel.Json.Skip
import HealthPanel.Proofs.Json.Tree

/-!
# What is skipped

A value that is skipped is skipped to its end and no further, whatever tokens it is made of, however
deep it nests and whichever blanks stand in it. Texts are skipped without a look at what they mean.
So the quote that ends a text can be told before the text is read, and what is read depends on
nothing behind it.
-/

namespace HealthPanel.Json

variable {α : Type} {spells : α → List UInt8 → Prop} {items : List α} {skip : Reader Unit}
  {close : UInt8} {ended due : Cause} {depth : Nat} {tree : Tree}
  {bytes inner token bound front back gap rest s : List UInt8}

/-! ## Texts -/

/-- A piece of a text is skipped in one step. -/
theorem IsPiece.skipContents_eq (h : IsPiece bytes) (first : UInt8) :
    skipContents (first :: bound) (bytes ++ s) = skipContents bound s := by
  cases h with
  | @plain b control quote backslash =>
    have hcontrol : ¬b < 0x20 := by
      rw [UInt8.lt_iff_toNat_lt]
      exact Nat.not_lt.mpr control
    rw [List.singleton_append, skipContents.eq_def]
    simp only [if_neg quote, if_neg backslash, if_neg hcontrol]
  | @letter letter b short =>
    have hletter : letter ≠ 0x75 := by
      rintro rfl
      simp [shortEscape?] at short
    simp only [List.cons_append, List.nil_append, skipContents]
    split <;> simp_all
  | number digits => simp [skipContents, readHex, digits]

/-- A text is skipped up to its closing quote. -/
theorem IsInner.skipText_eq (h : IsInner inner) (rest : List UInt8) :
    skipText (inner ++ 0x22 :: rest) = .ok ((), rest) := by
  obtain ⟨pieces, hpieces, rfl⟩ := h
  have hskip (bound : List UInt8) (enough : pieces.flatten.length < bound.length) :
      skipContents bound (pieces.flatten ++ 0x22 :: rest) = .ok ((), rest) := by
    induction pieces generalizing bound with
    | nil =>
      obtain _ | ⟨first, bound⟩ := bound
      · simp at enough
      · rfl
    | cons piece pieces ih =>
      obtain ⟨hpiece, hothers⟩ := List.forall_mem_cons.mp hpieces
      have hlength : 0 < piece.length := by cases hpiece <;> exact Nat.succ_pos _
      rw [List.flatten_cons, List.length_append] at enough
      obtain _ | ⟨first, bound⟩ := bound
      · simp at enough
      · rw [List.length_cons] at enough
        rw [List.flatten_cons, List.append_assoc, hpiece.skipContents_eq]
        exact ih hothers bound (by omega)
  exact hskip _ (by simp)

/-- A character is spelled in pieces. -/
theorem SpellsChar.isInner {c : Char} (h : SpellsChar c bytes) : IsInner bytes := by
  cases h with
  | itself control quote backslash =>
    refine ⟨(String.utf8EncodeChar c).map fun b => [b], List.forall_mem_map.mpr fun b hb => ?_, by
      rw [← List.flatMap_def, List.flatMap_singleton']⟩
    obtain ⟨hcontrol, hquote, hbackslash⟩ :=
      plain_of_mem_utf8EncodeChar control quote backslash hb
    exact .plain hcontrol hquote hbackslash
  | letter short => exact ⟨[_], List.forall_mem_singleton.mpr (.letter short), rfl⟩
  | number digits => exact ⟨[_], List.forall_mem_singleton.mpr (.number digits), rfl⟩
  | pair leading trailing =>
    exact ⟨[_, _], List.forall_mem_cons.mpr
      ⟨.number leading, List.forall_mem_singleton.mpr (.number trailing)⟩, rfl⟩

/-- What spells characters of a text has no bare quote in it. -/
theorem SpellsChars.isInner {chars : List Char} (h : SpellsChars chars bytes) : IsInner bytes := by
  obtain ⟨spelled, hspelled, rfl⟩ := h
  induction hspelled with
  | nil => exact ⟨[], List.forall_mem_nil _, rfl⟩
  | cons hchar _ ih =>
    obtain ⟨pieces, hpieces, hbytes⟩ := hchar.isInner
    obtain ⟨others, hothers, hrest⟩ := ih
    refine ⟨pieces ++ others, List.forall_mem_append.mpr ⟨hpieces, hothers⟩, ?_⟩
    rw [List.flatten_cons, hbytes, hrest, List.flatten_append]

/-- The text that a token means, if it is one. -/
def textOf? (token : List UInt8) : Option String :=
  (readText (token.drop 1)).toOption.map Prod.fst

/-- What is read as a text depends on nothing behind its closing quote. -/
theorem IsInner.toOption_readText (h : IsInner inner) (rest : List UInt8) :
    (readText (inner ++ 0x22 :: rest)).toOption =
      (textOf? (0x22 :: (inner ++ [0x22]))).map (·, rest) := by
  rw [textOf?, List.drop_one, List.tail_cons]
  by_cases hmeans : ∃ text : String, SpellsChars text.toList inner
  · obtain ⟨text, htext⟩ := hmeans
    rw [readText_of_spellsChars htext, readText_of_spellsChars htext]
    rfl
  · -- What is read would end at the same quote, where it is skipped to.
    have hnone (rest : List UInt8) : (readText (inner ++ 0x22 :: rest)).toOption = none := by
      cases hread : readText (inner ++ 0x22 :: rest) with
      | error fault => rfl
      | ok taken =>
        obtain ⟨text, left⟩ := taken
        obtain ⟨inner', htext, hsplit⟩ := spellsChars_of_readText hread
        have hskip := h.skipText_eq rest
        rw [hsplit, htext.isInner.skipText_eq left] at hskip
        obtain rfl : left = rest := (Prod.mk.inj (Except.ok.inj hskip)).2
        rw [List.append_cancel_right hsplit] at hmeans
        exact absurd ⟨text, htext⟩ hmeans
    rw [hnone rest, hnone []]
    rfl

/-- The token that the writer writes for a text means it. -/
theorem textOf?_quoted (text : String) :
    IsText (Utf8.encode (quoted text)) ∧ textOf? (Utf8.encode (quoted text)) = some text := by
  obtain ⟨inner, hinner, hquoted⟩ := exists_encode_quoted text
  refine ⟨⟨inner, hinner.isInner, hquoted⟩, ?_⟩
  rw [hquoted, textOf?, List.cons_append, List.drop_one, List.tail_cons,
    readText_of_spellsChars hinner]
  rfl

/-! ## Items -/

/-- Every item is skipped to its end, after any blanks and whatever comes next that does not go on
with a numeral. -/
def SkipsAll (skip : Reader Unit) (spells : α → List UInt8 → Prop) : Prop :=
  ∀ item bytes, spells item bytes → ∀ gap rest, IsGap gap → EndsNumeral rest →
    skip (gap ++ (bytes ++ rest)) = .ok ((), rest)

/-- Items with commas between them are skipped up to the closing byte. -/
theorem Separated.skipItems_eq (h : Separated spells items bytes) (all : SkipsAll skip spells)
    (isFront : IsGap front) (isBack : IsGap back) (closes : close = 0x5D ∨ close = 0x7D)
    (enough : items.length ≤ bound.length) :
    skipItems skip close ended due bound (front ++ (bytes ++ (back ++ close :: rest))) =
      .ok ((), rest) := by
  have hblank : isBlank close = false := by rcases closes with rfl | rfl <;> decide
  induction h generalizing bound front with
  | last spelled =>
    obtain _ | ⟨first, bound⟩ := bound
    · simp at enough
    · rw [skipItems, all _ _ spelled _ _ isFront (isBack.endsNumeral_append (.inr closes))]
      simp only [peek_append isBack hblank, if_pos]
  | next spelled isComma _ ih =>
    obtain _ | ⟨first, bound⟩ := bound
    · simp at enough
    · obtain ⟨gap, later, isGap, isLater, rfl⟩ := isComma
      have hcomma : (0x2C : UInt8) ≠ close := by rcases closes with rfl | rfl <;> decide
      simp only [List.append_assoc, List.cons_append]
      rw [skipItems, all _ _ spelled _ _ isFront (isGap.endsNumeral_append (.inl rfl))]
      simp only [peek_append isGap (show isBlank 0x2C = false by decide), if_neg hcomma, if_pos]
      exact ih isLater (Nat.le_of_succ_le_succ enough)

/-- A list or an object is skipped up to its closing byte. -/
theorem Enclosed.skipContainer_eq (h : Enclosed close spells items bytes)
    (all : SkipsAll skip spells)
    (begins : ∀ {item bytes}, spells item bytes → BeginsItem bytes)
    (closes : close = 0x5D ∨ close = 0x7D) (rest : List UInt8) :
    skipContainer skip close ended due (bytes ++ rest) = .ok ((), rest) := by
  have hblank : isBlank close = false := by rcases closes with rfl | rfl <;> decide
  rw [skipContainer]
  cases h with
  | empty isGap =>
    simp only [List.append_assoc, List.singleton_append, peek_append isGap hblank, if_pos]
  | @items items front bytes back isFront separated isBack =>
    have hlength := separated.length_le begins
    obtain ⟨b, tail, rfl, hb, hbracket, hbrace⟩ := separated.beginsItem begins
    have hclose : b ≠ close := by rcases closes with rfl | rfl <;> assumption
    simp only [List.append_assoc, List.cons_append, List.nil_append, peek_append isFront hb,
      if_neg hclose]
    refine separated.skipItems_eq all isGap_nil isBack closes ?_
    simp only [List.length_cons, List.length_append] at hlength ⊢
    omega

/-! ## Values -/

/-- A key is skipped with the colon behind it. -/
theorem IsText.skipKey_eq (h : IsText token) (isGap : IsGap gap) (isFront : IsGap front)
    (s : List UInt8) :
    skipKey (gap ++ (token ++ (front ++ 0x3A :: s))) = .ok ((), s) := by
  obtain ⟨inner, hinner, rfl⟩ := h
  simp only [skipKey, List.cons_append, List.append_assoc, List.nil_append,
    peek_append isGap (show isBlank 0x22 = false by decide), hinner.skipText_eq,
    readColon_append isFront]

/-- A token is skipped. -/
theorem IsScalar.skipNested_eq (h : IsScalar token) (isGap : IsGap gap) (ends : EndsNumeral rest) :
    skipNested bound (gap ++ (token ++ rest)) = .ok ((), rest) := by
  unfold skipNested
  cases h with
  | null =>
    simp only [List.cons_append, peek_append isGap (show isBlank 0x6E = false by decide)]
    rfl
  | ofTrue =>
    simp only [List.cons_append, peek_append isGap (show isBlank 0x74 = false by decide)]
    rfl
  | ofFalse =>
    simp only [List.cons_append, peek_append isGap (show isBlank 0x66 = false by decide)]
    rfl
  | @number numeral _ spelled =>
    obtain ⟨b, tail, rfl, hb⟩ := spelled.exists_head
    obtain ⟨hblank, hnull, htrue, hfalse, hquote, hlist, hobject, -, -⟩ :=
      not_other_of_sign_or_digit hb
    have hnumeral : readNumeral .invalidNumber (b :: (tail ++ rest)) = .ok (numeral, rest) :=
      spelled.readNumeral_eq ends
    simp only [List.cons_append, peek_append isGap hblank, if_pos hb, hnumeral]
    rfl
  | text isText =>
    obtain ⟨inner, hinner, rfl⟩ := isText
    simp only [List.cons_append, List.append_assoc, List.nil_append,
      peek_append isGap (show isBlank 0x22 = false by decide), hinner.skipText_eq]

/-- A member is skipped by skipping its key and then its value. -/
theorem SkipsAll.member {renders : Tree → List UInt8 → Prop} (all : SkipsAll skip renders) :
    SkipsAll (fun s =>
      match skipKey s with
      | .error fault => .error fault
      | .ok (_, s) => skip s) (RendersMember renders) := by
  rintro ⟨token, value⟩ bytes h gap rest isGap ends
  obtain ⟨content, isText, hcontent, rfl⟩ := h
  obtain ⟨colon, inside, ⟨before, after, isBefore, isAfter, rfl⟩, rendered, rfl⟩ := hcontent
  simp only [List.append_assoc, List.cons_append, isText.skipKey_eq isGap isBefore]
  exact all value inside rendered after rest isAfter ends

/-- A tree is skipped, if the bound of its nesting is as long as its bytes. -/
theorem Renders.skipNested_eq (h : Renders depth tree bytes) (enough : bytes.length ≤ bound.length)
    (isGap : IsGap gap) (ends : EndsNumeral rest) :
    skipNested bound (gap ++ (bytes ++ rest)) = .ok ((), rest) := by
  induction depth using Nat.strong_induction_on generalizing tree bytes bound gap rest with
  | _ depth ih =>
  rcases h.shape with ⟨isScalar, -⟩ | ⟨less, rfl, container⟩
  · exact isScalar.skipNested_eq isGap ends
  · obtain _ | ⟨first, bound⟩ := bound
    · cases container <;> simp at enough
    · -- What stands behind the opening byte is shorter, and so are the items in it.
      have hall : SkipsAll (skipNested bound) fun tree inner =>
          Renders less tree inner ∧ inner.length ≤ bound.length :=
        fun tree inner h gap rest isGap ends => ih less (Nat.lt_succ_self _) h.1 h.2 isGap ends
      unfold skipNested
      cases container with
      | list enclosed =>
        simp only [List.cons_append, peek_append isGap (show isBlank 0x5B = false by decide)]
        refine (enclosed.within.mono fun item inner h => ?_).skipContainer_eq hall
          (fun h => h.1.beginsItem) (.inl rfl) rest
        exact ⟨h.1, h.2.trans (Nat.le_of_succ_le_succ enough)⟩
      | object enclosed =>
        simp only [List.cons_append, peek_append isGap (show isBlank 0x7B = false by decide)]
        refine (enclosed.within.mono fun member inner h => ?_).skipContainer_eq hall.member
          RendersMember.beginsItem (.inr rfl) rest
        exact h.1.within (h.2.trans (Nat.le_of_succ_le_succ enough))

/-- A value of any nesting is skipped to its end. -/
theorem Renders.skipValue_eq (h : Renders depth tree bytes) (isGap : IsGap gap)
    (ends : EndsNumeral rest) : skipValue (gap ++ (bytes ++ rest)) = .ok ((), rest) :=
  h.skipNested_eq (by simp only [List.length_append]; omega) isGap ends

end HealthPanel.Json
