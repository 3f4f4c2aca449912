import HealthPanel.Http.Network
import Mathlib.Algebra.Order.Group.Nat
import Mathlib.Data.Nat.Find

/-!
# When a reply tells something

What has come in on a connection is a matter of time alone: the pieces whose delays have passed,
and whether the connection has been closed. A client that looks at every piece learns what there
is to learn at the first time at which it can be told, provided that more bytes take nothing back.
-/

namespace HealthPanel.Http

variable {α : Type}

/-! ## What has come in -/

/-- Which pieces have come in after some time. -/
def heardFrom : List Piece → Nat → List (List UInt8)
  | [], _ => []
  | piece :: pieces, time =>
    if piece.delay ≤ time then piece.bytes :: heardFrom pieces (time - piece.delay) else []

/-- Whether pieces and the close after them have come after some time. -/
def isClosedFrom (closing : Option Nat) : List Piece → Nat → Bool
  | [], time => closing.any (· ≤ time)
  | piece :: pieces, time =>
    piece.delay ≤ time && isClosedFrom closing pieces (time - piece.delay)

namespace Reply

/-- What has come in of a reply some time after the request. -/
def heard (reply : Reply) (time : Nat) : List (List UInt8) :=
  heardFrom reply.pieces time

/-- Whether the connection has been closed some time after the request. -/
def isClosedBy (reply : Reply) (time : Nat) : Bool :=
  isClosedFrom reply.closing reply.pieces time

end Reply

/-- What has come in stays, more may come in behind it, and nothing does after the close. -/
theorem heardFrom_of_le (closing : Option Nat) (pieces : List Piece) {early late : Nat}
    (h : early ≤ late) :
    ∃ later, heardFrom pieces late = heardFrom pieces early ++ later ∧
      (isClosedFrom closing pieces early = true →
        later = [] ∧ isClosedFrom closing pieces late = true) := by
  induction pieces generalizing early late with
  | nil =>
    refine ⟨[], rfl, fun hclosed => ⟨rfl, ?_⟩⟩
    simp only [isClosedFrom, Option.any_eq_true, decide_eq_true_eq] at hclosed ⊢
    obtain ⟨delay, hdelay, hle⟩ := hclosed
    exact ⟨delay, hdelay, hle.trans h⟩
  | cons piece pieces ih =>
    by_cases hpiece : piece.delay ≤ early
    · have hlate := hpiece.trans h
      obtain ⟨later, hlater, hclosed⟩ := ih (Nat.sub_le_sub_right h piece.delay)
      refine ⟨later, ?_, ?_⟩
      · simp [heardFrom, hpiece, hlate, hlater]
      · simpa [isClosedFrom, hpiece, hlate] using hclosed
    · refine ⟨heardFrom (piece :: pieces) late, ?_, ?_⟩
      · simp [heardFrom, hpiece]
      · simp [isClosedFrom, hpiece]

/-! ## What it tells -/

/-- More bytes take nothing back of what `judge` tells, and no bytes tell it nothing. -/
structure IsSteady (judge : List (List UInt8) → Bool → Option α) : Prop where
  nil : judge [] false = none
  append : ∀ {s later : List (List UInt8)} {closed : Bool} {verdict : α},
    judge s false = some verdict → judge (s ++ later) closed = some verdict

variable {judge : List (List UInt8) → Bool → Option α} {verdict : α}

/-- What is told by some time is still told later. -/
theorem IsSteady.told_of_le (steady : IsSteady judge) {reply : Reply} {early late : Nat}
    (h : early ≤ late) (told : judge (reply.heard early) (reply.isClosedBy early) = some verdict) :
    judge (reply.heard late) (reply.isClosedBy late) = some verdict := by
  obtain ⟨later, hheard, hclosed⟩ := heardFrom_of_le reply.closing reply.pieces h
  rw [Reply.heard, hheard]
  cases hearly : reply.isClosedBy early with
  | false =>
    rw [hearly] at told
    exact steady.append told
  | true =>
    obtain ⟨rfl, hlate⟩ := hclosed hearly
    rw [List.append_nil, Reply.isClosedBy, hlate]
    rwa [hearly] at told

/-- `verdict` is told at some time, and nothing is told before. -/
def FirstTold (told : Nat → Option α) (time : Nat) (verdict : α) : Prop :=
  told time = some verdict ∧ ∀ early, early < time → told early = none

/-- Something is told first at one time only. -/
theorem FirstTold.unique {told : Nat → Option α} {time other : Nat} {verdict verdict' : α}
    (h : FirstTold told time verdict) (h' : FirstTold told other verdict') :
    time = other ∧ verdict = verdict' := by
  have htime : time = other := by
    rcases Nat.lt_trichotomy time other with hlt | heq | hgt
    · have hnone := h'.2 time hlt
      rw [h.1] at hnone
      contradiction
    · exact heq
    · have hnone := h.2 other hgt
      rw [h'.1] at hnone
      contradiction
  subst htime
  exact ⟨rfl, Option.some.inj (h.1.symm.trans h'.1)⟩

/-- What is told first depends on nothing that is told later. -/
theorem FirstTold.congr {told told' : Nat → Option α} {time : Nat} (h : FirstTold told time verdict)
    (alike : ∀ wait, wait ≤ time → told wait = told' wait) : FirstTold told' time verdict := by
  refine ⟨(alike time (Nat.le_refl time)).symm.trans h.1, fun early hearly => ?_⟩
  exact (alike early (Nat.le_of_lt hearly)).symm.trans (h.2 early hearly)

/-- Nothing is told before the first piece has come, and then what it and the rest tell. -/
theorem firstTold_cons_iff {closing : Option Nat} {piece : Piece} {pieces : List Piece}
    {received : List (List UInt8)} (untold : judge received false = none) {time : Nat} :
    FirstTold (fun wait => judge (received ++ heardFrom (piece :: pieces) wait)
        (isClosedFrom closing (piece :: pieces) wait)) time verdict ↔
      ∃ wait, time = piece.delay + wait ∧
        FirstTold (fun wait => judge (received ++ [piece.bytes] ++ heardFrom pieces wait)
          (isClosedFrom closing pieces wait)) wait verdict := by
  have hearly : ∀ early, early < piece.delay →
      judge (received ++ heardFrom (piece :: pieces) early)
        (isClosedFrom closing (piece :: pieces) early) = none := by
    intro early h
    simpa [heardFrom, isClosedFrom, Nat.not_le.mpr h] using untold
  have hlate : ∀ wait, judge (received ++ heardFrom (piece :: pieces) (piece.delay + wait))
      (isClosedFrom closing (piece :: pieces) (piece.delay + wait)) =
        judge (received ++ [piece.bytes] ++ heardFrom pieces wait)
          (isClosedFrom closing pieces wait) := by
    intro wait
    simp [heardFrom, isClosedFrom]
  constructor
  · intro hparts
    obtain ⟨htold, huntold⟩ := hparts
    have hdelay : piece.delay ≤ time := by
      by_contra h
      have hnone := hearly time (Nat.not_le.mp h)
      exact Option.some_ne_none verdict (htold.symm.trans hnone)
    obtain ⟨wait, rfl⟩ := Nat.exists_eq_add_of_le hdelay
    refine ⟨wait, rfl, (hlate wait).symm.trans htold, ?_⟩
    intro early h
    exact (hlate early).symm.trans (huntold _ (Nat.add_lt_add_left h _))
  · intro hparts
    obtain ⟨wait, rfl, htold, huntold⟩ := hparts
    refine ⟨(hlate wait).trans htold, ?_⟩
    intro early h
    by_cases hdelay : early < piece.delay
    · exact hearly early hdelay
    · obtain ⟨rest, rfl⟩ := Nat.exists_eq_add_of_le (Nat.not_lt.mp hdelay)
      exact (hlate rest).trans (huntold rest (Nat.lt_of_add_lt_add_left h))

/-- Once all pieces have come, only the close can tell something more. -/
theorem awaitPieces_nil_eq_some_iff {deadline time : Nat} {closing : Option Nat} {now : Nat}
    {received : List (List UInt8)} (untold : judge received false = none) :
    Reply.awaitPieces judge deadline closing [] now received = some (time, verdict) ↔
      ∃ wait, time = now + wait ∧ now + wait < deadline ∧
        FirstTold (fun wait => judge (received ++ heardFrom [] wait)
          (isClosedFrom closing [] wait)) wait verdict := by
  simp only [heardFrom, List.append_nil]
  cases closing with
  | none => simp [Reply.awaitPieces, isClosedFrom, FirstTold, untold]
  | some delay =>
    have hclosed : ∀ wait, isClosedFrom (some delay) [] wait = decide (delay ≤ wait) := by
      intro wait
      simp [isClosedFrom]
    simp only [Reply.awaitPieces, hclosed]
    constructor
    · intro h
      split at h
      case isTrue hbefore =>
        obtain ⟨found, hfound, hpair⟩ := Option.map_eq_some_iff.mp h
        obtain ⟨rfl, rfl⟩ := Prod.mk.inj hpair
        refine ⟨delay, rfl, hbefore, by simpa using hfound, ?_⟩
        intro early hearly
        simpa [Nat.not_le.mpr hearly] using untold
      case isFalse => contradiction
    · intro hparts
      obtain ⟨wait, rfl, hbefore, htold, huntold⟩ := hparts
      have hdelay : delay ≤ wait := by
        by_contra h
        simp [h, untold] at htold
      have hwait : wait = delay := by
        by_contra h
        have hnone := huntold delay (by omega)
        simp only [hdelay, decide_true] at htold
        simp [htold] at hnone
      subst hwait
      simp only [le_refl, decide_true] at htold
      simp [hbefore, htold]

/-- Looking at piece after piece finds what is told first, if that is before the deadline. -/
theorem awaitPieces_eq_some_iff (steady : IsSteady judge) {deadline time : Nat}
    {closing : Option Nat} (pieces : List Piece) {now : Nat} {received : List (List UInt8)}
    (untold : judge received false = none) :
    Reply.awaitPieces judge deadline closing pieces now received = some (time, verdict) ↔
      ∃ wait, time = now + wait ∧ now + wait < deadline ∧
        FirstTold (fun wait => judge (received ++ heardFrom pieces wait)
          (isClosedFrom closing pieces wait)) wait verdict := by
  induction pieces generalizing now received with
  | nil => exact awaitPieces_nil_eq_some_iff untold
  | cons piece pieces ih =>
    simp only [Reply.awaitPieces, firstTold_cons_iff untold]
    by_cases hbefore : now + piece.delay < deadline
    · rw [if_pos hbefore]
      cases hpiece : judge (received ++ [piece.bytes]) false with
      | none =>
        simp only [ih hpiece]
        constructor
        · intro hparts
          obtain ⟨wait, rfl, hwait, htold⟩ := hparts
          exact ⟨piece.delay + wait, by omega, by omega, wait, rfl, htold⟩
        · intro hparts
          obtain ⟨-, rfl, hwait, wait, rfl, htold⟩ := hparts
          exact ⟨wait, by omega, by omega, htold⟩
      | some found =>
        -- Pieces without a delay come at the same time; what this one tells, they leave.
        have hfound : FirstTold (fun wait =>
            judge (received ++ [piece.bytes] ++ heardFrom pieces wait)
              (isClosedFrom closing pieces wait)) 0 found :=
          ⟨steady.append hpiece, fun early h => absurd h (Nat.not_lt_zero early)⟩
        simp only [Option.some.injEq, Prod.mk.injEq]
        constructor
        · intro hparts
          obtain ⟨rfl, rfl⟩ := hparts
          exact ⟨piece.delay, rfl, hbefore, 0, rfl, hfound⟩
        · intro hparts
          obtain ⟨-, rfl, hwait, wait, rfl, htold⟩ := hparts
          obtain ⟨rfl, rfl⟩ := hfound.unique htold
          exact ⟨rfl, rfl⟩
    · rw [if_neg hbefore]
      constructor
      · intro h
        contradiction
      · intro hparts
        obtain ⟨-, rfl, hwait, wait, rfl, htold⟩ := hparts
        omega

namespace Reply

variable {reply : Reply} {deadline now time : Nat}

/-- A client learns what a reply tells first, and when, if that is before the deadline. -/
theorem await_eq_some_iff (steady : IsSteady judge) :
    reply.await judge deadline now = some (time, verdict) ↔
      ∃ wait, time = now + wait ∧ now + wait < deadline ∧
        FirstTold (fun wait => judge (reply.heard wait) (reply.isClosedBy wait)) wait verdict :=
  awaitPieces_eq_some_iff steady reply.pieces steady.nil

/-- A client learns whatever a reply tells at any time before the deadline. -/
theorem exists_await_iff (steady : IsSteady judge) :
    (∃ time, reply.await judge deadline now = some (time, verdict)) ↔
      ∃ wait, now + wait < deadline ∧
        judge (reply.heard wait) (reply.isClosedBy wait) = some verdict := by
  constructor
  · intro hparts
    obtain ⟨time, h⟩ := hparts
    obtain ⟨wait, -, hbefore, htold, -⟩ := (await_eq_some_iff steady).mp h
    exact ⟨wait, hbefore, htold⟩
  · intro hparts
    obtain ⟨wait, hbefore, htold⟩ := hparts
    have hsome : ∃ wait, (judge (reply.heard wait) (reply.isClosedBy wait)).isSome :=
      ⟨wait, by rw [htold]; rfl⟩
    have hle : Nat.find hsome ≤ wait := Nat.find_min' hsome (by rw [htold]; rfl)
    obtain ⟨first, hfirst⟩ := Option.isSome_iff_exists.mp (Nat.find_spec hsome)
    have hsame := steady.told_of_le hle hfirst
    obtain rfl : first = verdict := Option.some.inj (hsame.symm.trans htold)
    refine ⟨now + Nat.find hsome, (await_eq_some_iff steady).mpr ?_⟩
    refine ⟨Nat.find hsome, rfl, by omega, hfirst, ?_⟩
    intro early hearly
    exact Option.not_isSome_iff_eq_none.mp (Nat.find_min hsome hearly)

/-- A client learns nothing of a reply that tells nothing before the deadline. -/
theorem await_eq_none_iff (steady : IsSteady judge) :
    reply.await judge deadline now = none ↔
      ∀ wait, now + wait < deadline → judge (reply.heard wait) (reply.isClosedBy wait) = none := by
  constructor
  · intro h wait hbefore
    rw [Option.eq_none_iff_forall_ne_some]
    intro verdict htold
    obtain ⟨time, hawait⟩ := (exists_await_iff steady).mpr ⟨wait, hbefore, htold⟩
    exact Option.some_ne_none _ (hawait.symm.trans h)
  · intro huntold
    rw [Option.eq_none_iff_forall_ne_some]
    rintro ⟨time, verdict⟩ hawait
    obtain ⟨wait, hbefore, htold⟩ := (exists_await_iff steady).mp ⟨time, hawait⟩
    exact Option.some_ne_none _ (htold.symm.trans (huntold wait hbefore))

/-- Two replies bring the same on a connection as long as some time has not passed. -/
def AgreesBefore (reply other : Reply) (time : Nat) : Prop :=
  ∀ wait, wait < time →
    reply.heard wait = other.heard wait ∧ reply.isClosedBy wait = other.isClosedBy wait

/-- Of two replies that agree before a time, either agrees with the other. -/
theorem AgreesBefore.symm {other : Reply} (h : reply.AgreesBefore other time) :
    other.AgreesBefore reply time :=
  fun wait hwait => ⟨(h wait hwait).1.symm, (h wait hwait).2.symm⟩

/-- What comes in after the deadline makes no difference to a client. -/
theorem AgreesBefore.await_eq (steady : IsSteady judge) {other : Reply}
    (h : reply.AgreesBefore other (deadline - now)) :
    reply.await judge deadline now = other.await judge deadline now := by
  have hlearned {reply other : Reply} (h : reply.AgreesBefore other (deadline - now))
      {told : Nat × α} (hawait : reply.await judge deadline now = some told) :
      other.await judge deadline now = some told := by
    obtain ⟨wait, htime, hbefore, hfirst⟩ := (await_eq_some_iff steady).mp hawait
    refine (await_eq_some_iff steady).mpr
      ⟨wait, htime, hbefore, hfirst.congr fun early hearly => ?_⟩
    obtain ⟨hheard, hclosed⟩ := h early (by omega)
    rw [hheard, hclosed]
  exact Option.ext fun told => ⟨hlearned h, hlearned h.symm⟩

end Reply

end HealthPanel.Http
