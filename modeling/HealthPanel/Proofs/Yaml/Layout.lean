import HealthPanel.Yaml.Token
import HealthPanel.Proofs.Text.Blank
import HealthPanel.Proofs.Text.Digits
import Mathlib.Data.List.Basic

/-!
# Mappings laid out in lines

A mapping of scalars and of such mappings may be written with one key a line, at a column that is
its depth in the mapping. A value on the line of its key is a word, or stands between double
quotes, all that means something there escaped by its number. Here are the pieces that such lines
are made of, and how each of them is scanned.
-/

namespace HealthPanel.Yaml

open HealthPanel.Text (hexDigit)

/-! ## Words and quoted texts -/

/-- A character of a word: an ASCII letter or digit, or an underscore. -/
def isWordChar (c : Char) : Bool :=
  c.isAlphanum || c = '_'

/-- Whether some characters are a word. -/
def IsWord (chars : List Char) : Prop :=
  chars ≠ [] ∧ ∀ c ∈ chars, isWordChar c

instance (chars : List Char) : Decidable (IsWord chars) :=
  inferInstanceAs (Decidable (chars ≠ [] ∧ ∀ c ∈ chars, isWordChar c))

/-- The digits of a number are a word. -/
theorem isWord_toString (n : Nat) : IsWord (toString n).toList := by
  rw [Nat.toString_eq_ofList_toDigits, String.toList_ofList]
  refine ⟨Nat.toDigits_ne_nil, fun c hc => ?_⟩
  have hdigit : c.isDigit := Nat.isDigit_of_mem_toDigits (by decide) (by decide) hc
  simp [isWordChar, Char.isAlphanum, hdigit]

/-- The number of a character in eight hexadecimal digits. -/
def numberDigits (c : Char) : List Char :=
  [28, 24, 20, 16, 12, 8, 4, 0].map fun place => hexDigit (c.toNat >>> place % 16)

/-- Whether a character stands for itself between double quotes. -/
def standsForItself (c : Char) : Bool :=
  isAllowed c && !isBlank c && !isBreak c && c ≠ '"' && c ≠ '\\'

/-- A character as it is written between double quotes. -/
def escape (c : Char) : List Char :=
  if standsForItself c then [c] else '\\' :: 'U' :: numberDigits c

/-! ## Lines -/

/-- What stands on the line of a key. -/
inductive LineValue
  | nothing
  | word (letters : String)
  | quoted (text : String)

/-- The characters after the colon. -/
def LineValue.chars : LineValue → List Char
  | nothing => []
  | word letters => ' ' :: letters.toList
  | quoted text => ' ' :: '"' :: (text.toList.flatMap escape ++ ['"'])

/-- A line: where its key stands, the key, and what follows. -/
structure Line where
  column : Nat
  key : String
  value : LineValue

/-- The characters of a line from its key on. -/
def Line.chars (line : Line) : List Char :=
  line.key.toList ++ ':' :: line.value.chars

/-- The text of lines. -/
def layout : List Line → List Char
  | [] => []
  | line :: lines =>
    List.replicate line.column ' ' ++ (line.chars ++ '\n' :: layout lines)

/-- Where the first key stands. -/
def firstColumn : List Line → Nat
  | [] => 0
  | line :: _ => line.column

/-- The text of lines from the first key on. -/
def unindented : List Line → List Char
  | [] => []
  | line :: lines => line.chars ++ '\n' :: layout lines

/-- A layout is the indentation of its first line and what comes behind it. -/
theorem layout_eq (lines : List Line) :
    layout lines = List.replicate (firstColumn lines) ' ' ++ unindented lines := by
  cases lines <;> rfl

/-! ## Where a token starts -/

variable {c d : Char} {text : List Char}

/-- A character of a word differs from one that may not be in a word. -/
theorem ne_of_isWordChar (h : isWordChar c) (hd : isWordChar d = false) : c ≠ d := by
  rintro rfl
  exact absurd h (by simp [hd])

/-- A character of a word is no blank. -/
theorem isBlank_of_isWordChar (h : isWordChar c) : isBlank c = false := by
  rw [← Bool.not_eq_true]
  intro hblank
  simp only [isBlank, Bool.or_eq_true, decide_eq_true_eq] at hblank
  rcases hblank with rfl | rfl <;> exact absurd h (by decide)

/-- No printable ASCII character ends a line. -/
theorem isBreak_of_range (h : 0x20 ≤ c.toNat ∧ c.toNat ≤ 0x7E) : isBreak c = false := by
  rw [← Bool.not_eq_true]
  intro hbreak
  simp only [isBreak, Bool.or_eq_true, decide_eq_true_eq] at hbreak
  rcases hbreak with (((rfl | rfl) | rfl) | rfl) | rfl <;> exact absurd h (by decide)

/-- A character of a word is a printable one of ASCII. -/
theorem range_of_isWordChar (h : isWordChar c) : 0x20 ≤ c.toNat ∧ c.toNat ≤ 0x7E := by
  simp only [isWordChar, Bool.or_eq_true, decide_eq_true_eq] at h
  rcases h with h | rfl
  · have hnat : c.val.toNat = c.toNat := rfl
    delta Char.isAlphanum Char.isAlpha Char.isUpper Char.isLower Char.isDigit at h
    simp only [Bool.or_eq_true, decide_eq_true_eq, Bool.and_eq_true, UInt32.le_iff_toNat_le,
      ge_iff_le, hnat, Char.reduceVal, UInt32.reduceToNat] at h
    omega
  · decide

/-- A character of a word breaks no line. -/
theorem isBreak_of_isWordChar (h : isWordChar c) : isBreak c = false :=
  isBreak_of_range (range_of_isWordChar h)

/-- A character of a word is allowed. -/
theorem isAllowed_of_isWordChar (h : isWordChar c) : isAllowed c := by
  simp [isAllowed, range_of_isWordChar h]

/-- Neither a blank, the end of a line nor a comment comes first. -/
def StartsToken (text : List Char) : Prop :=
  ∀ c ∈ text.head?, isBlank c = false ∧ isBreak c = false ∧ c ≠ '#' ∧ c ≠ '\ufeff'

/-- A character of a word starts a token. -/
theorem startsToken_of_isWordChar (h : isWordChar c) : StartsToken (c :: text) := by
  intro d hd
  obtain rfl : c = d := by simpa using hd
  exact ⟨isBlank_of_isWordChar h, isBreak_of_isWordChar h, ne_of_isWordChar h (by decide),
    ne_of_isWordChar h (by decide)⟩

namespace Cursor

variable {mark : Mark}

/-- Where no line breaks, no break is taken. -/
theorem takeBreak?_eq_none (h : isBreak c = false) :
    (⟨c :: text, mark⟩ : Cursor).takeBreak? = none := by
  have hreturn : c ≠ '\r' := by
    rintro rfl
    exact absurd h (by decide)
  unfold takeBreak?
  split <;> simp_all

/-- Before a token no break is taken. -/
theorem takeBreak?_of_startsToken (h : StartsToken text) :
    (⟨text, mark⟩ : Cursor).takeBreak? = none := by
  cases text with
  | nil => rfl
  | cons c text => exact takeBreak?_eq_none (h c rfl).2.1

/-- Before a token there is no comment. -/
theorem skipComment_of_startsToken (h : StartsToken text) :
    (⟨text, mark⟩ : Cursor).skipComment = ⟨text, mark⟩ := by
  have hsign : (⟨text, mark⟩ : Cursor).sees '#' = false := by
    cases text with
    | nil => rfl
    | cons c text => simpa [sees, peek?] using (h c rfl).2.2.1
  rw [skipComment, hsign]
  rfl

/-- Blanks are dropped up to where a token starts. -/
theorem dropWhile_of_startsToken (h : StartsToken text) {test : Char → Bool} (space : test ' ')
    (blank : ∀ c, test c → isBlank c) (count : Nat) :
    (⟨List.replicate count ' ' ++ text, mark⟩ : Cursor).dropWhile test =
      ⟨text, mark.right count⟩ := by
  have hnone : text.takeWhile test = [] := by
    cases text with
    | nil => rfl
    | cons c text =>
      refine List.takeWhile_cons_of_neg fun htest => ?_
      have hblank := (h c rfl).1
      rw [blank c htest] at hblank
      cases hblank
  have htaken : (List.replicate count ' ' ++ text).takeWhile test = List.replicate count ' ' := by
    have hall : ∀ c ∈ List.replicate count ' ', test c := by simp [List.mem_replicate, space]
    rw [List.takeWhile_append_of_pos hall, hnone, List.append_nil]
  simp [dropWhile, takeWhile, skip, htaken]

/-- What does not hold of a line break does not pass it. -/
theorem dropWhile_lineEnd (test : Char → Bool) (h : test '\n' = false) :
    (⟨'\n' :: text, mark⟩ : Cursor).dropWhile test = ⟨'\n' :: text, mark⟩ := by
  have hnone : ('\n' :: text).takeWhile test = [] := List.takeWhile_cons_of_neg (by simp [h])
  simp [dropWhile, takeWhile, hnone, skip, Mark.right]

end Cursor

namespace Scan

variable {scan : Scan} {mark : Mark}

/-- Blanks on the line are skipped. -/
theorem skipSpace_of_blanks (h : StartsToken text) (fuel count : Nat) (keyAllowed : Bool) :
    scan.skipSpace (fuel + 1) ⟨List.replicate count ' ' ++ text, mark⟩ keyAllowed =
      (⟨text, mark.right count⟩, keyAllowed) := by
  have hblank : ∀ c, (decide (c = ' ') || (decide (c = '\t') && (scan.inFlow || !keyAllowed))) →
      isBlank c := by
    intro c hc
    simp only [Bool.or_eq_true, Bool.and_eq_true, decide_eq_true_eq] at hc
    rcases hc with rfl | ⟨rfl, -⟩ <;> rfl
  simp only [skipSpace, Cursor.dropWhile_of_startsToken h (by simp) hblank,
    Cursor.skipComment_of_startsToken h, Cursor.takeBreak?_of_startsToken h]

/-- Only at a byte order mark does the text start behind its first character. -/
theorem toNextToken_eq (rest : scan.cursor.rest.head? ≠ some '\ufeff') :
    scan.toNextToken =
      let next := scan.skipSpace (scan.cursor.rest.length + 1) scan.cursor scan.keyAllowed
      { scan with cursor := next.1, keyAllowed := next.2 } := by
  have hsees : scan.cursor.sees '\ufeff' = false := by
    simpa [Cursor.sees, Cursor.peek?] using rest
  simp [toNextToken, hsees]

/-- The next token on the line comes after some blanks. -/
theorem toNextToken_of_blanks (h : StartsToken text) (count : Nat)
    (rest : scan.cursor.rest = List.replicate count ' ' ++ text) :
    scan.toNextToken = { scan with cursor := ⟨text, scan.cursor.mark.right count⟩ } := by
  have hhead : scan.cursor.rest.head? ≠ some '\ufeff' := by
    rw [rest]
    cases count with
    | zero => exact fun hmark => (h _ hmark).2.2.2 rfl
    | succ count => simp [List.replicate_succ]
  have hcursor : scan.cursor = ⟨List.replicate count ' ' ++ text, scan.cursor.mark⟩ := by
    rw [← rest]
  rw [toNextToken_eq hhead, hcursor]
  simp only [skipSpace_of_blanks h]

/-- The next token stands on the next line, after some blanks. -/
theorem toNextToken_of_lineEnd (h : StartsToken text) (count : Nat) (flows : scan.flowKeys = [])
    (rest : scan.cursor.rest = '\n' :: (List.replicate count ' ' ++ text)) :
    scan.toNextToken =
      { scan with
        cursor := ⟨text, (scan.cursor.mark.down 1).right count⟩
        keyAllowed := true } := by
  have hhead : scan.cursor.rest.head? ≠ some '\ufeff' := by simp [rest]
  have hcursor : scan.cursor = ⟨'\n' :: (List.replicate count ' ' ++ text), scan.cursor.mark⟩ := by
    rw [← rest]
  have hflow : scan.inFlow = false := by simp [inFlow, flows]
  have hskip : scan.skipSpace (scan.cursor.rest.length + 1) scan.cursor scan.keyAllowed =
      (⟨text, (scan.cursor.mark.down 1).right count⟩, true) := by
    have hbreak : (⟨'\n' :: (List.replicate count ' ' ++ text), scan.cursor.mark⟩ :
        Cursor).takeBreak? = some ('\n', ⟨List.replicate count ' ' ++ text,
          scan.cursor.mark.down 1⟩) := rfl
    have hcomment : (⟨'\n' :: (List.replicate count ' ' ++ text), scan.cursor.mark⟩ :
        Cursor).skipComment = ⟨'\n' :: (List.replicate count ' ' ++ text), scan.cursor.mark⟩ := rfl
    rw [rest, List.length_cons, hcursor, skipSpace]
    simp (disch := simp) only [Cursor.dropWhile_lineEnd, hcomment, hbreak, skipSpace_of_blanks h,
      hflow, Bool.not_false, Bool.or_true]
  rw [toNextToken_eq hhead, hskip]

end Scan

end HealthPanel.Yaml
