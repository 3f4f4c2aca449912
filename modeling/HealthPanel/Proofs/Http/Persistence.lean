import HealthPanel.Http.Body
import HealthPanel.Proofs.Url.Splitting
import Mathlib.Data.List.TakeDrop
import Mathlib.Data.List.TakeWhile

/-!
# More bytes change nothing that has been told

A reader that has told something of the bytes that have come in tells the same when more come,
and leaves them behind what it has left over. So a response can be read as its bytes come in, and
it does not matter into which pieces they are cut.
-/

namespace HealthPanel.Http

variable {α β : Type} {later : List UInt8}

namespace Incoming

/-- What has been read, with more bytes behind what is left over. -/
def append (incoming : Incoming α) (later : List UInt8) : Incoming α :=
  match incoming with
  | more => more
  | bad => bad
  | done value rest => done value (rest ++ later)

/-- More bytes behind what is refused. -/
@[simp] theorem append_bad : (bad : Incoming α).append later = bad := rfl

/-- More bytes behind what is complete. -/
@[simp] theorem append_done {value : α} {rest : List UInt8} :
    (done value rest).append later = done value (rest ++ later) := rfl

/-- What `early` tells, `late` tells with more bytes left over. -/
def Persists (later : List UInt8) (early late : Incoming α) : Prop :=
  early ≠ more → late = early.append later

/-- What tells nothing yet promises nothing. -/
theorem Persists.of_more {late : Incoming α} : Persists later more late :=
  fun h => absurd rfl h

/-- What is refused stays refused. -/
theorem Persists.of_bad : Persists later (bad : Incoming α) bad :=
  fun _ => rfl

/-- What is complete stays complete. -/
theorem Persists.of_done {value : α} {rest : List UInt8} :
    Persists later (done value rest) (done value (rest ++ later)) :=
  fun _ => rfl

/-- Reading on persists where both parts do. -/
theorem Persists.bind {early late : Incoming α} {next next' : α → List UInt8 → Incoming β}
    (h : Persists later early late)
    (hnext : ∀ value rest, Persists later (next value rest) (next' value (rest ++ later))) :
    Persists later (early.bind next) (late.bind next') := by
  cases early with
  | more => exact .of_more
  | bad =>
    rw [h (by simp)]
    exact .of_bad
  | done value rest =>
    rw [h (by simp)]
    exact hnext value rest

/-- What is read persists under a function. -/
theorem Persists.map {early late : Incoming α} (h : Persists later early late) (f : α → β) :
    Persists later (early.map f) (late.map f) :=
  h.bind fun _ _ => .of_done

/-- What is read at the end is what was read before it, if that told anything. -/
theorem Persists.atEnd {early late : Incoming α} (h : Persists later early late) :
    Persists later early late.atEnd := by
  intro htold
  rw [h htold]
  cases early with
  | more => exact absurd rfl htold
  | bad => rfl
  | done value rest => rfl

end Incoming

open Incoming

/-! ## Lines and bytes -/

/-- Dropping ends where it ended before if it ended at some byte. -/
theorem dropWhile_append_of_cons {p : UInt8 → Bool} {s rest : List UInt8} {b : UInt8}
    (h : s.dropWhile p = b :: rest) : (s ++ later).dropWhile p = b :: (rest ++ later) := by
  rw [dropWhile_append_of_ne_nil (h ▸ List.cons_ne_nil b rest), h, List.cons_append]

/-- Taking ends where dropping ends at some byte. -/
theorem takeWhile_append_of_cons {p : UInt8 → Bool} {s rest : List UInt8} {b : UInt8}
    (h : s.dropWhile p = b :: rest) : (s ++ later).takeWhile p = s.takeWhile p :=
  takeWhile_append_of_ne_nil (h ▸ List.cons_ne_nil b rest) later

/-- A byte that tells something tells it still. -/
theorem readAs_persists (f : UInt8 → Option α) (s : List UInt8) :
    Persists later (readAs f s) (readAs f (s ++ later)) := by
  cases s with
  | nil => exact .of_more
  | cons b rest =>
    simp only [readAs, List.cons_append]
    cases f b with
    | none => exact .of_bad
    | some value => exact .of_done

/-- A byte that is there stays there. -/
theorem readByte_persists (b : UInt8) (s : List UInt8) :
    Persists later (readByte b s) (readByte b (s ++ later)) :=
  readAs_persists _ s

/-- Bytes that are there stay there. -/
theorem readBytes_persists (bytes s : List UInt8) :
    Persists later (readBytes bytes s) (readBytes bytes (s ++ later)) := by
  induction bytes generalizing s with
  | nil => exact .of_done
  | cons b bytes ih => exact (readByte_persists b s).bind fun _ rest => ih rest

/-- Bytes of a kind end where they have ended. -/
theorem readWhile_persists (p : UInt8 → Bool) (s : List UInt8) :
    Persists later (readWhile p s) (readWhile p (s ++ later)) := by
  cases h : s.dropWhile p with
  | nil =>
    have hmore : readWhile p s = .more := by
      rw [readWhile, h]
    rw [hmore]
    exact .of_more
  | cons b rest =>
    rw [readWhile, readWhile, h, dropWhile_append_of_cons h, takeWhile_append_of_cons h]
    exact .of_done

/-- A line break stays one. -/
theorem readLineBreak_persists (s : List UInt8) :
    Persists later (readLineBreak s) (readLineBreak (s ++ later)) :=
  (readByte_persists 0x0D s).bind fun _ rest => readByte_persists 0x0A rest

/-- The end of a line stays one. -/
theorem readLineEnd_persists (s : List UInt8) :
    Persists later (readLineEnd s) (readLineEnd (s ++ later)) := by
  cases s with
  | nil => exact .of_more
  | cons b rest =>
    rw [readLineEnd, readLineEnd, List.cons_append, List.head?_cons, List.head?_cons]
    by_cases h : some b = some 0x0D
    · rw [if_pos h, if_pos h]
      exact readLineBreak_persists (b :: rest)
    · rw [if_neg h, if_neg h]
      exact readByte_persists 0x0A (b :: rest)

/-! ## What is taken in bit by bit -/

/-- What is cut makes up the bytes that it is cut off. -/
theorem flatten_cut {size fuel : Nat} {s : List UInt8} (positive : size ≠ 0)
    (enough : s.length ≤ fuel) : (cut size fuel s).flatten = s := by
  induction fuel generalizing s with
  | zero =>
    rw [List.length_eq_zero_iff.mp (Nat.le_zero.mp enough)]
    rfl
  | succ fuel ih =>
    rw [cut]
    split
    case isTrue h =>
      rcases h with rfl | hzero
      · rfl
      · exact absurd hzero positive
    case isFalse =>
      have hshorter : (s.drop size).length ≤ fuel := by
        rw [List.length_drop]
        omega
      rw [List.flatten_cons, ih hshorter, List.take_append_drop]

/-- A client takes in all of what has come in. -/
theorem Reader.flatten_flatMap_takes (reader : Reader) (received : List (List UInt8)) :
    (received.flatMap reader.takes).flatten = received.flatten := by
  induction received with
  | nil => rfl
  | cons piece received ih =>
    rw [List.flatMap_cons, List.flatten_append, ih, List.flatten_cons, Reader.takes,
      flatten_cut (by omega) (Nat.le_refl _)]

/-! ## Heads -/

namespace Head

/-- Three digits stay the same number. -/
theorem readThreeDigits_persists (s : List UInt8) :
    Persists later (readThreeDigits s) (readThreeDigits (s ++ later)) :=
  (readAs_persists _ s).bind fun _ rest =>
    (readAs_persists _ rest).bind fun _ rest => (readAs_persists _ rest).map _

/-- A reason ends where it has ended. -/
theorem readReason_persists (s : List UInt8) :
    Persists later (readReason s) (readReason (s ++ later)) := by
  cases s with
  | nil => exact .of_more
  | cons b rest =>
    rw [readReason, readReason, List.cons_append, List.head?_cons, List.head?_cons]
    by_cases h : some b = some 0x20
    · rw [if_pos h, if_pos h]
      exact (readWhile_persists isValueByte (b :: rest)).bind fun _ rest =>
        readLineEnd_persists rest
    · rw [if_neg h, if_neg h]
      exact readLineEnd_persists (b :: rest)

/-- The line of a status stays the same. -/
theorem readStatusLine_persists (s : List UInt8) :
    Persists later (readStatusLine s) (readStatusLine (s ++ later)) :=
  (readBytes_persists _ s).bind fun _ rest =>
    (readAs_persists _ rest).bind fun _ rest =>
      (readByte_persists 0x20 rest).bind fun _ rest =>
        (readThreeDigits_persists rest).bind fun _ rest => (readReason_persists rest).map _

/-- The line of a field stays the same. -/
theorem readField_persists (s : List UInt8) :
    Persists later (readField s) (readField (s ++ later)) := by
  refine (readWhile_persists isNameByte s).bind fun name rest => ?_
  split
  case isTrue => exact .of_bad
  case isFalse =>
    exact (readByte_persists 0x3A rest).bind fun _ rest =>
      (readWhile_persists isValueByte rest).bind fun _ rest => (readLineEnd_persists rest).map _

/-- Whether there is a blank line is told by the first byte. -/
theorem isBlankLine_append {s : List UInt8} (h : s ≠ []) :
    isBlankLine (s ++ later) = isBlankLine s := by
  obtain ⟨b, rest, rfl⟩ := List.exists_cons_of_ne_nil h
  rfl

/-- Fields stay the same. -/
theorem readFields_persists (allowed : Nat) (s : List UInt8) :
    Persists later (readFields allowed s) (readFields allowed (s ++ later)) := by
  have hnil (allowed : Nat) : readFields allowed [] = .more := by
    cases allowed <;> rfl
  induction allowed generalizing s with
  | zero =>
    by_cases h : s = []
    · rw [h, hnil]
      exact .of_more
    · rw [readFields, readFields, isBlankLine_append h]
      split
      case isTrue => exact (readLineEnd_persists s).map _
      case isFalse => exact (readField_persists s).bind fun _ _ => .of_bad
  | succ allowed ih =>
    by_cases h : s = []
    · rw [h, hnil]
      exact .of_more
    · rw [readFields, readFields, isBlankLine_append h]
      split
      case isTrue => exact (readLineEnd_persists s).map _
      case isFalse => exact (readField_persists s).bind fun field rest => (ih rest).map (field :: ·)

/-- The blank lines in front of a head stay the same. -/
theorem readBlankLines_persists {fuel more : Nat} (h : fuel ≤ more) (s : List UInt8) :
    Persists later (readBlankLines fuel s) (readBlankLines more (s ++ later)) := by
  induction fuel generalizing more s with
  | zero => exact .of_more
  | succ fuel ih =>
    obtain ⟨more, rfl⟩ := Nat.exists_eq_add_of_le' (Nat.lt_of_lt_of_le (Nat.succ_pos fuel) h)
    by_cases hnil : s = []
    · rw [readBlankLines, if_pos hnil]
      exact .of_more
    · have hlong : s ++ later ≠ [] := fun h => hnil (List.append_eq_nil_iff.mp h).1
      rw [readBlankLines, readBlankLines, if_neg hnil, if_neg hlong, isBlankLine_append hnil]
      split
      case isTrue => exact (readLineEnd_persists s).bind fun _ rest => ih (by omega) rest
      case isFalse => exact .of_done

/-- A head stays the same. -/
theorem readOne_persists (s later : List UInt8) :
    Persists later (readOne s) (readOne (s ++ later)) := by
  refine (readBlankLines_persists (by simp) s).bind fun _ rest => ?_
  refine (readStatusLine_persists rest).bind fun line rest => ?_
  refine (readFields_persists maxFields rest).bind fun fields rest => ?_
  cases ofParts? line.1 line.2 fields with
  | none => exact .of_bad
  | some head => exact .of_done

/-- What has been read of what a client has taken in stays the same when it takes in more. -/
theorem readTakes_persists (isPatient : Bool) (waiting : List UInt8)
    (takes more : List (List UInt8)) :
    Persists more.flatten (readTakes isPatient waiting takes)
      (readTakes isPatient waiting (takes ++ more)) := by
  induction takes generalizing waiting with
  | nil => exact .of_more
  | cons taken takes ih =>
    rw [List.cons_append, readTakes, readTakes]
    split
    case h_1 head rest _ =>
      rw [List.flatten_append, ← List.append_assoc]
      exact .of_done
    case h_2 => exact .of_bad
    case h_3 =>
      split
      case isTrue => exact .of_bad
      case isFalse => exact ih _

/-- What has been read of a head stays the same. -/
theorem read_persists (reader : Reader) (received more : List (List UInt8)) :
    Persists more.flatten (read reader received) (read reader (received ++ more)) := by
  rw [read, read, List.flatMap_append, ← reader.flatten_flatMap_takes more]
  exact readTakes_persists _ _ _ _

/-- Nothing tells nothing. -/
theorem read_nil (reader : Reader) : read reader [] = .more := rfl

end Head

/-! ## Chunks -/

/-- The end of the line of a size stays the same: no more bytes behind a semicolon become fewer. -/
theorem readSizeEnd_persists (extended : Nat) (s : List UInt8) :
    Persists later (readSizeEnd extended s) (readSizeEnd extended (s ++ later)) := by
  cases h : s.dropWhile isLineBlank with
  | nil =>
    rw [readSizeEnd, h]
    exact .of_more
  | cons b rest =>
    rw [readSizeEnd, readSizeEnd, h, dropWhile_append_of_cons h]
    by_cases hb : b = 0x3B
    · subst hb
      cases hrest : rest.dropWhile fun b => b ≠ 0x0D ∧ b ≠ 0x0A with
      | nil =>
        have hall : rest.takeWhile (fun b => b ≠ 0x0D ∧ b ≠ 0x0A) = rest := by
          have hsplit := List.takeWhile_append_dropWhile
            (p := fun b : UInt8 => decide (b ≠ 0x0D ∧ b ≠ 0x0A)) (l := rest)
          rwa [hrest, List.append_nil] at hsplit
        have hlater : rest.length ≤
            ((rest ++ later).takeWhile fun b => b ≠ 0x0D ∧ b ≠ 0x0A).length := by
          rw [List.takeWhile_append, if_pos (by rw [hall])]
          simp
        simp only [hrest, hall]
        split
        case isTrue hmany =>
          rw [if_pos (hmany.trans (Nat.add_le_add_left hlater extended))]
          exact .of_bad
        case isFalse => exact .of_more
      | cons c tail =>
        simp only [hrest, dropWhile_append_of_cons hrest, takeWhile_append_of_cons hrest]
        split
        case isTrue => exact .of_bad
        case isFalse => exact (readLineBreak_persists (c :: tail)).map _
    · simpa [hb] using (readLineBreak_persists (b :: rest)).map fun _ => extended

/-- Whether a byte is a digit of the size of a chunk. -/
def isSizeDigit (b : UInt8) : Bool :=
  (Text.hexValue? b).isSome

/-- The number that digits of a size write after a number. -/
def sizeFrom (n : Nat) (digits : List UInt8) : Nat :=
  digits.foldl (fun n b => n * 16 + (Text.hexValue? b).getD 0) n

/-- More digits make no size smaller. -/
theorem le_sizeFrom (n : Nat) (digits : List UInt8) : n ≤ sizeFrom n digits := by
  induction digits generalizing n with
  | nil => exact Nat.le_refl n
  | cons b digits ih =>
    have hrest := ih (n * 16 + (Text.hexValue? b).getD 0)
    have hfirst : n ≤ n * 16 + (Text.hexValue? b).getD 0 := by omega
    exact hfirst.trans hrest

/-- A size is read off its digits and what comes after them. -/
theorem readSize_eq (extended : Nat) (s : List UInt8) :
    readSize extended s =
      if s = [] then .more else if s.takeWhile isSizeDigit = [] then .bad
      else if UInt64.size ≤ sizeFrom 0 (s.takeWhile isSizeDigit) then .bad
      else (readSizeEnd extended (s.dropWhile isSizeDigit)).map
        (sizeFrom 0 (s.takeWhile isSizeDigit), ·) := by
  have hsplit := List.takeWhile_append_dropWhile (p := isSizeDigit) (l := s)
  have hdrop : (s.takeWhile isSizeDigit ++ s.dropWhile isSizeDigit).drop
      (s.takeWhile isSizeDigit).length = s.dropWhile isSizeDigit := List.drop_left
  rw [hsplit] at hdrop
  cases hdigits : s.takeWhile isSizeDigit with
  | nil =>
    have hnone : s.takeWhile (fun b => (Text.hexValue? b).isSome) = [] := hdigits
    cases s with
    | nil => rfl
    | cons b rest => simp [readSize, hnone]
  | cons b digits =>
    have hsome : s.takeWhile (fun b => (Text.hexValue? b).isSome) = b :: digits := hdigits
    have hne : s ≠ [] := by
      intro hnil
      simp [hnil] at hdigits
    rw [hdigits] at hdrop
    simp only [readSize, hsome, hdrop]
    rw [if_neg hne, if_neg (List.cons_ne_nil b digits)]
    rfl

/-- A size stays the same. -/
theorem readSize_persists (extended : Nat) (s : List UInt8) :
    Persists later (readSize extended s) (readSize extended (s ++ later)) := by
  rw [readSize_eq, readSize_eq]
  by_cases hnil : s = []
  · rw [if_pos hnil]
    exact .of_more
  have hlong : s ++ later ≠ [] := fun h => hnil (List.append_eq_nil_iff.mp h).1
  rw [if_neg hnil, if_neg hlong]
  cases h : s.dropWhile isSizeDigit with
  | nil =>
    have hall : s.takeWhile isSizeDigit = s := by
      have hsplit := List.takeWhile_append_dropWhile (p := isSizeDigit) (l := s)
      rwa [h, List.append_nil] at hsplit
    have hlater : (s ++ later).takeWhile isSizeDigit = s ++ later.takeWhile isSizeDigit := by
      rw [List.takeWhile_append, if_pos (by rw [hall])]
    have hdigits : s ++ later.takeWhile isSizeDigit ≠ [] :=
      fun h => hnil (List.append_eq_nil_iff.mp h).1
    rw [hall, hlater, if_neg hnil, if_neg hdigits]
    -- The digits may go on in what comes later, so only a size that is too large is told.
    by_cases hbig : UInt64.size ≤ sizeFrom 0 s
    · have hbigger : UInt64.size ≤ sizeFrom 0 (s ++ later.takeWhile isSizeDigit) := by
        rw [sizeFrom, List.foldl_append]
        exact hbig.trans (le_sizeFrom _ _)
      rw [if_pos hbig, if_pos hbigger]
      exact .of_bad
    · rw [if_neg hbig]
      exact .of_more
  | cons b rest =>
    rw [takeWhile_append_of_cons h, dropWhile_append_of_cons h]
    split
    case isTrue => exact .of_bad
    case isFalse =>
      split
      case isTrue => exact .of_bad
      case isFalse => exact (readSizeEnd_persists extended (b :: rest)).map _

/-- The lines after the last chunk stay the same. -/
theorem readTrailers_persists {fuel more : Nat} (h : fuel ≤ more) (s : List UInt8) :
    Persists later (readTrailers fuel s) (readTrailers more (s ++ later)) := by
  induction fuel generalizing more s with
  | zero => exact .of_more
  | succ fuel ih =>
    obtain ⟨more, rfl⟩ := Nat.exists_eq_add_of_le' (Nat.lt_of_lt_of_le (Nat.succ_pos fuel) h)
    cases s with
    | nil => exact .of_more
    | cons b rest =>
      by_cases hb : b = 0x0D
      · subst hb
        exact readByte_persists 0x0A rest
      · have hopen : ∀ fuel tail, readTrailers (fuel + 1) (b :: tail) =
            (readLineBreak (tail.dropWhile (· ≠ 0x0D))).bind fun _ rest =>
              readTrailers fuel rest := by
          intro fuel tail
          simp [readTrailers]
        rw [List.cons_append, hopen, hopen]
        cases hrest : rest.dropWhile (· ≠ 0x0D) with
        | nil => exact .of_more
        | cons c tail =>
          rw [dropWhile_append_of_cons hrest]
          refine (readLineBreak_persists (c :: tail)).bind ?_
          intro _ rest
          exact ih (by omega) rest

/-- A chunk stays the same. -/
theorem readChunk_persists (size : Nat) (s : List UInt8) :
    Persists later (readChunk size s) (readChunk size (s ++ later)) := by
  by_cases h : s.length < size
  · rw [readChunk, if_pos h]
    exact .of_more
  · have hlater : ¬(s ++ later).length < size := by
      rw [List.length_append]
      omega
    rw [readChunk, readChunk, if_neg h, if_neg hlater]
    rw [List.drop_append_of_le_length (by omega), List.take_append_of_le_length (by omega)]
    exact (readLineBreak_persists (s.drop size)).map _

/-- Chunks stay the same. -/
theorem readChunks_persists {fuel more : Nat} (h : fuel ≤ more) (extended : Nat) (s : List UInt8) :
    Persists later (readChunks fuel extended s) (readChunks more extended (s ++ later)) := by
  induction fuel generalizing more extended s with
  | zero => exact .of_more
  | succ fuel ih =>
    obtain ⟨more, rfl⟩ := Nat.exists_eq_add_of_le' (Nat.lt_of_lt_of_le (Nat.succ_pos fuel) h)
    rw [readChunks, readChunks]
    refine (readSize_persists extended s).bind fun size rest => ?_
    dsimp only
    split
    case isTrue => exact (readTrailers_persists (by simp) rest).map _
    case isFalse =>
      refine (readChunk_persists size.1 rest).bind fun chunk rest => ?_
      exact (ih (by omega) size.2 rest).map _

/-! ## Bodies -/

/-- What the body tells while more bytes can come persists, whether or not more can come still. -/
theorem Framing.read_persists (framing : Framing) (closed : Bool) (s : List UInt8) :
    Persists later (framing.read false s) (framing.read closed (s ++ later)) := by
  cases framing with
  | length count =>
    have hopen : Persists later ((Framing.length count).read false s)
        ((Framing.length count).read false (s ++ later)) := by
      simp only [Framing.read, Bool.false_eq_true, if_false]
      by_cases h : s.length < count
      · rw [if_pos h]
        exact .of_more
      · have hlater : ¬(s ++ later).length < count := by
          rw [List.length_append]
          omega
        rw [if_neg h, if_neg hlater]
        rw [List.drop_append_of_le_length (by omega), List.take_append_of_le_length (by omega)]
        exact .of_done
    cases closed with
    | false => exact hopen
    | true => exact hopen.atEnd
  | chunked =>
    have hopen : Persists later (Framing.chunked.read false s)
        (Framing.chunked.read false (s ++ later)) := readChunks_persists (by simp) 0 s
    cases closed with
    | false => exact hopen
    | true => exact hopen.atEnd
  | untilClosed => exact .of_more

end HealthPanel.Http
