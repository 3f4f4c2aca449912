import HealthPanel.Proofs.Text.Blank
import HealthPanel.Url.Domain.Ascii
import Mathlib.Data.List.Induction
import Mathlib.Data.Option.Basic

/-!
# ASCII characters in domain names

The tables of domain names start beyond ASCII, but for the capital letters. So an ASCII character
that is none stands for itself, is never composed with what comes before it, and a name of such
characters is its own ASCII form.
-/

namespace HealthPanel

/-- A set whose edges lie beyond ASCII has no ASCII character. -/
theorem CodePointSet.contains_of_beyond {set : CodePointSet} {c : Char}
    (hset : ∀ edge ∈ set.edges, 0x80 ≤ edge) (h : c.toNat < 0x80) : set.contains c = false := by
  have hcount : set.edges.countP (· ≤ c.toNat) = 0 := by
    rw [List.countP_eq_zero]
    intro edge hedge
    simpa using Nat.lt_of_lt_of_le h (hset edge hedge)
  simp [CodePointSet.contains, hcount]

namespace Url.Domain

open CodePointSet (contains_of_beyond)

variable {c : Char}

/-! ## What becomes of an ASCII character -/

/-- An ASCII character that is no capital letter. -/
def IsPlain (c : Char) : Prop :=
  c.toNat < 0x80 ∧ ¬(0x41 ≤ c.toNat ∧ c.toNat ≤ 0x5A)

instance : DecidablePred IsPlain := fun c =>
  inferInstanceAs (Decidable (c.toNat < 0x80 ∧ ¬(0x41 ≤ c.toNat ∧ c.toNat ≤ 0x5A)))

/-- The sets of the tables start beyond ASCII. -/
theorem edges_beyond :
    ∀ set ∈ [ignored, disallowed, marks, rightToLeft, arabicLetters, arabicNumbers],
      ∀ edge ∈ set.edges, 0x80 ≤ edge := by
  decide +kernel

/-- No character of ASCII is in one of these sets. -/
theorem contains_of_ascii {set : CodePointSet}
    (h : set ∈ [ignored, disallowed, marks, rightToLeft, arabicLetters, arabicNumbers])
    (hc : c.toNat < 0x80) : set.contains c = false :=
  contains_of_beyond (edges_beyond set h) hc

/-- So do the other tables, but for the run of the capital letters. What is composed of two
characters is beyond ASCII, and so is the second of these. -/
theorem tables_beyond :
    (∀ run ∈ runs, 0x80 ≤ run.first ∨ run.first = 0x41 ∧ run.last = 0x5A) ∧
      (∀ column ∈ columns, 0x80 ≤ column.1) ∧ (∀ phrase ∈ phrases, 0x80 ≤ phrase.1) ∧
      (∀ range ∈ markRanges, 0x80 ≤ range.first) ∧
      ∀ composition ∈ compositions, 0x80 ≤ composition.1 ∧ 0x80 ≤ composition.2.2 := by
  decide +kernel

/-- No composition begins with a character of ASCII or makes one. -/
theorem compositions_beyond :
    ∀ composition ∈ compositions, 0x80 ≤ composition.1 ∧ 0x80 ≤ composition.2.2 :=
  tables_beyond.2.2.2.2

/-- An ASCII character is not found in a table that starts beyond. -/
theorem find?_eq_none_of_beyond {α : Type} {table : List α} {point : α → Nat} {test : α → Bool}
    (beyond : ∀ entry ∈ table, 0x80 ≤ point entry)
    (found : ∀ entry, test entry = true → point entry ≤ c.toNat) (hc : c.toNat < 0x80) :
    table.find? test = none := by
  rw [List.find?_eq_none]
  intro entry hentry htest
  have hle := (beyond entry hentry).trans (found entry htest)
  omega

/-- A plain character stays as it is. -/
theorem replace?_of_isPlain (h : IsPlain c) : replace? c = some [c] := by
  obtain ⟨hascii, hcapital⟩ := h
  obtain ⟨hruns, hcolumns, hphrases, -⟩ := tables_beyond
  have hrun : replacedByRun? c.toNat = none := by
    rw [replacedByRun?, Option.map_eq_none_iff, List.find?_eq_none]
    intro run hrun
    have := hruns run hrun
    simp
    omega
  have hcolumn : replacedByColumn? c.toNat = none := by
    rw [replacedByColumn?, List.findSome?_eq_none_iff]
    intro column hcolumn
    have := hcolumns column hcolumn
    simp
    omega
  have hphrase : phrases.lookup c.toNat = none := by
    rw [List.lookup_eq_none_iff]
    intro phrase hphrase
    have := hphrases phrase hphrase
    simp
    omega
  have hdisallowed : disallowed.contains c = false := contains_of_ascii (by simp) hascii
  have hignored : ignored.contains c = false := contains_of_ascii (by simp) hascii
  simp [replace?, hdisallowed, hignored, hphrase, hrun, hcolumn]

/-! ## Normal form -/

/-- A character of ASCII combines with none. -/
theorem combiningClass_of_ascii (h : c.toNat < 0x80) : combiningClass c = 0 := by
  have hfind : markRanges.find? (fun range => range.first ≤ c.toNat ∧ c.toNat ≤ range.last) =
      none :=
    find?_eq_none_of_beyond tables_beyond.2.2.2.1 (fun _ htest => (of_decide_eq_true htest).1) h
  simp only [combiningClass, hfind]

/-- A character of ASCII is no syllable. -/
theorem lettersOfSyllable?_of_ascii (h : c.toNat < 0x80) : lettersOfSyllable? c = none := by
  have hbelow : ¬(firstSyllable ≤ c.toNat ∧ c.toNat < firstSyllable + 11172) := by
    unfold firstSyllable
    omega
  simp only [lettersOfSyllable?, if_neg hbelow]

/-- An ASCII character is in one piece. -/
theorem decompose_of_ascii (h : c.toNat < 0x80) (fuel : Nat) : decompose fuel c = [c] := by
  cases fuel with
  | zero => rfl
  | succ fuel =>
    have hfind : compositions.find? (fun composition => composition.1 = c.toNat) = none :=
      find?_eq_none_of_beyond (fun composition hmem => (compositions_beyond composition hmem).1)
        (fun _ htest => (of_decide_eq_true htest).le) h
    simp only [decompose, lettersOfSyllable?_of_ascii h, hfind]

/-- An ASCII character is composed with nothing before it. -/
theorem compose?_of_ascii (base : Char) (h : c.toNat < 0x80) : compose? base c = none := by
  have hsyllable : syllable? base c = none := by
    unfold syllable? beforeFinals
    rw [if_neg (by omega), if_neg (by omega)]
  have hfind : compositions.find?
      (fun composition => composition.2.1 = base.toNat ∧ composition.2.2 = c.toNat) = none :=
    find?_eq_none_of_beyond (fun composition hmem => (compositions_beyond composition hmem).2)
      (fun _ htest => (of_decide_eq_true htest).2.le) h
  simp only [compose?, hsyllable, hfind, Option.map_none]

/-- An ASCII character behind a text stays behind its composed form. There are no marks without a
base. -/
theorem composeFrom_concat (h : c.toNat < 0x80) (done : List Char) (base : Option Char)
    (marks text : List Char) (hmarks : base = none → marks = []) :
    composeFrom done base marks (text ++ [c]) = composeFrom done base marks text ++ [c] := by
  induction text generalizing done base marks with
  | nil =>
    cases base with
    | none => simp [composeFrom, combiningClass_of_ascii h, hmarks]
    | some b => simp [composeFrom, combiningClass_of_ascii h, compose?_of_ascii b h]
  | cons d rest ih =>
    cases base with
    | none =>
      simp only [List.cons_append, composeFrom]
      split <;> exact ih _ _ _ (by simp)
    | some b =>
      simp only [List.cons_append, composeFrom]
      split
      case h_1 => exact ih _ _ _ (by simp)
      case h_2 => split <;> exact ih _ _ _ (by simp)

/-- An ASCII character behind a text stays behind its normal form. -/
theorem normalize_concat (h : c.toNat < 0x80) (text : List Char) :
    normalize (text ++ [c]) = normalize text ++ [c] := by
  have hinsert : ∀ sorted, insertMark c sorted = c :: sorted := by
    intro sorted
    cases sorted <;> simp [insertMark, combiningClass_of_ascii h]
  simp only [normalize, List.flatMap_append, List.flatMap_singleton, decompose_of_ascii h,
    sortMarks, List.foldl_append, List.foldl_cons, List.foldl_nil, hinsert, List.reverse_cons,
    composeFrom_concat h _ _ _ _ (fun _ => rfl)]

/-- A text in ASCII is in normal form. -/
theorem normalize_of_ascii {text : List Char} (h : ∀ c ∈ text, c.toNat < 0x80) :
    normalize text = text := by
  induction text using List.reverseRecOn with
  | nil => rfl
  | append_singleton text c ih =>
    rw [normalize_concat (h c (by simp)), ih fun d hd => h d (List.mem_append_left _ hd)]

/-! ## Names -/

/-- Among characters of ASCII there is no joiner. -/
theorem joinersStand_of_ascii {label : List Char} (h : ∀ c ∈ label, c.toNat < 0x80)
    (before : List Char) : joinersStand before label = true := by
  induction label generalizing before with
  | nil => rfl
  | cons c rest ih =>
    have hc : c.toNat < 0x80 := h c List.mem_cons_self
    have hjoiner : c.toNat ≠ 0x200C ∧ c.toNat ≠ 0x200D := by omega
    simp [joinersStand, hjoiner, ih fun d hd => h d (List.mem_cons_of_mem _ hd)]

/-- A label of plain characters that no host forbids is its own ASCII form, unless it carries the
mark of Punycode. -/
theorem readLabel?_of_plain {label : List Char}
    (h : ∀ c ∈ label, IsPlain c ∧ isForbidden c = false)
    (hmark : punycodeMark.isPrefixOf label = false) : readLabel? label = some label := by
  have hascii : ∀ c ∈ label, c.toNat < 0x80 := fun c hc => (h c hc).1.1
  have hhead : label.head?.any marks.contains = false := by
    cases label with
    | nil => rfl
    | cons c rest =>
      have hmarks : marks.contains c = false :=
        contains_of_ascii (by simp) (hascii c List.mem_cons_self)
      simp [hmarks]
  have hall : label.all standsForItself = true := by
    rw [List.all_eq_true]
    intro c hc
    simp [standsForItself, replace?_of_isPlain (h c hc).1, (h c hc).2]
  have hlabel : isLabel label = true := by
    simp [isLabel, hhead, hall, joinersStand_of_ascii hascii]
  simp [readLabel?, hmark, hlabel]

/-- No ASCII character is written from right to left. -/
theorem directionsMix_of_ascii {labels : List (List Char)}
    (h : ∀ label ∈ labels, ∀ c ∈ label, c.toNat < 0x80) : directionsMix labels = true := by
  have hleft : ∀ c : Char, c.toNat < 0x80 →
      directionOf c ≠ .right ∧ directionOf c ≠ .arabicNumber := by
    intro c hc
    have hright : rightToLeft.contains c = false := contains_of_ascii (by simp) hc
    have hletters : arabicLetters.contains c = false := contains_of_ascii (by simp) hc
    have hnumbers : arabicNumbers.contains c = false := contains_of_ascii (by simp) hc
    simp only [directionOf, hright, hletters, hnumbers, Bool.or_self, Bool.false_eq_true, if_false]
    repeat' split
    all_goals decide
  have hnone : (labels.map (·.map directionOf)).any
      (fun label => .right ∈ label || .arabicNumber ∈ label) = false := by
    simp only [List.any_eq_false, List.mem_map]
    rintro _ ⟨label, hlabel, rfl⟩
    simp only [Bool.or_eq_true, decide_eq_true_eq, List.mem_map, not_or, not_exists, not_and]
    exact ⟨fun c hc => (hleft c (h label hlabel c hc)).1,
      fun c hc => (hleft c (h label hlabel c hc)).2⟩
  simp only [directionsMix, hnone, Bool.not_false, Bool.true_or]

/-- Labels have no characters but those of the name. -/
theorem mem_of_mem_splitLabels {text label : List Char} (h : label ∈ splitLabels text)
    (hc : c ∈ label) : c ∈ text := by
  induction text generalizing label with
  | nil => simp_all [splitLabels]
  | cons d rest ih =>
    rw [splitLabels, List.splitOn_cons_eq_if_modifyHead] at h
    obtain ⟨first, others, hsplit⟩ := List.exists_cons_of_ne_nil (List.splitOn_ne_nil '.' rest)
    simp only [splitLabels, hsplit] at h ih
    split at h
    case isTrue =>
      rcases List.mem_cons.mp h with rfl | h
      · simp at hc
      · exact List.mem_cons_of_mem _ (ih h hc)
    case isFalse =>
      rw [List.modifyHead_cons, List.mem_cons] at h
      rcases h with rfl | h
      · rcases List.mem_cons.mp hc with rfl | hc
        · exact List.mem_cons_self
        · exact List.mem_cons_of_mem _ (ih List.mem_cons_self hc)
      · exact List.mem_cons_of_mem _ (ih (List.mem_cons_of_mem _ h) hc)

/-- Where every element is read, all of them are. -/
theorem mapM_eq_some_map {α β : Type} {read : α → Option β} {result : α → β} {elements : List α}
    (h : ∀ a ∈ elements, read a = some (result a)) :
    elements.mapM read = some (elements.map result) := by
  induction elements with
  | nil => rfl
  | cons a rest ih =>
    rw [List.mapM_cons, h a List.mem_cons_self, ih fun b hb => h b (List.mem_cons_of_mem _ hb)]
    rfl

/-- A name of plain characters that no host forbids is its own ASCII form, unless a label carries
the mark of Punycode. -/
theorem toAscii?_of_plain {name : String}
    (h : ∀ c ∈ name.toList, IsPlain c ∧ isForbidden c = false)
    (hmark : ∀ label ∈ splitLabels name.toList, punycodeMark.isPrefixOf label = false) :
    toAscii? name = some name := by
  have hascii : ∀ c ∈ name.toList, c.toNat < 0x80 := fun c hc => (h c hc).1.1
  have hreplaced : name.toList.mapM replace? = some (name.toList.map ([·])) :=
    mapM_eq_some_map fun c hc => replace?_of_isPlain (h c hc).1
  have hread :
      (splitLabels name.toList).mapM readLabel? = some ((splitLabels name.toList).map id) :=
    mapM_eq_some_map fun label hlabel =>
      readLabel?_of_plain (fun c hc => h c (mem_of_mem_splitLabels hlabel hc)) (hmark label hlabel)
  have hascii' : ∀ label ∈ splitLabels name.toList, ∀ c ∈ label, c.toNat < 0x80 :=
    fun label hlabel c hc => hascii c (mem_of_mem_splitLabels hlabel hc)
  have hwrite : (splitLabels name.toList).mapM writeLabel? =
      some ((splitLabels name.toList).map id) :=
    mapM_eq_some_map fun label hlabel => if_pos (by simpa [isAscii] using hascii' label hlabel)
  have hflat : (name.toList.map ([·])).flatten = name.toList := by
    rw [← List.flatMap_def, List.flatMap_singleton']
  have hjoin : ".".toList.intercalate (splitLabels name.toList) = name.toList :=
    List.intercalate_splitOn '.'
  simp only [toAscii?, hreplaced, Option.bind_eq_bind, Option.bind_some, hflat,
    normalize_of_ascii hascii, hread, List.map_id, directionsMix_of_ascii hascii', guard_true,
    hwrite, hjoin, String.ofList_toList]
  rfl

end Url.Domain

end HealthPanel
