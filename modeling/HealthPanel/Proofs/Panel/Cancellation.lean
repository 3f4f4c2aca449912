import HealthPanel.Panel.Signal
import Mathlib.Data.List.Basic

/-!
# Checks that are given up

A check under a signal has looked at everything that has happened, whenever it waits: it has seen
the latest version of a signal that is open and not raised. The next event that is not quiet ends
it, and quiet ones leave it as it is. What happened before it began matters only through what it
finds then: the value that the signal holds, and whether somebody is left to set it.
-/

namespace HealthPanel

variable {signal : Signal} {earlier : List SignalEvent} {watch : Watch} {event : AttemptEvent}
  {events others before : List AttemptEvent} {result : Option Status}

/-! ## Events -/

/-- An event that no check takes notice of: the signal is lowered. -/
def AttemptEvent.isQuiet : AttemptEvent → Bool
  | .signal (.set false) => true
  | _ => false

/-- What a check ends with at an event, if it ends there. -/
def AttemptEvent.verdict? : AttemptEvent → Option (Option Status)
  | .signal (.set false) => none
  | .signal (.set true) => some none
  | .signal .close => some none
  | .answer status => some (some status)

/-- Quiet events end no check. -/
theorem AttemptEvent.verdict?_eq_none_iff : event.verdict? = none ↔ event.isQuiet = true := by
  match event with
  | .signal (.set false) => simp [verdict?, isQuiet]
  | .signal (.set true) => simp [verdict?, isQuiet]
  | .signal .close => simp [verdict?, isQuiet]
  | .answer status => simp [verdict?, isQuiet]

/-- A check is given up when the signal is raised or its setter is gone. -/
theorem AttemptEvent.verdict?_eq_some_none_iff :
    event.verdict? = some none ↔ event = .signal (.set true) ∨ event = .signal .close := by
  match event with
  | .signal (.set false) => simp [verdict?]
  | .signal (.set true) => simp [verdict?]
  | .signal .close => simp [verdict?]
  | .answer status => simp [verdict?]

/-- A check has a status when it is answered. -/
theorem AttemptEvent.verdict?_eq_some_some_iff {status : Status} :
    event.verdict? = some (some status) ↔ event = .answer status := by
  match event with
  | .signal (.set false) => simp [verdict?]
  | .signal (.set true) => simp [verdict?]
  | .signal .close => simp [verdict?]
  | .answer status => simp [verdict?]

/-- The first event that is not quiet tells what a check ends with. -/
theorem findSome?_verdict?_eq_some_iff :
    events.findSome? AttemptEvent.verdict? = some result ↔
      ∃ quiet event rest, events = quiet ++ event :: rest ∧ (∀ e ∈ quiet, e.isQuiet = true) ∧
        event.verdict? = some result := by
  rw [List.findSome?_eq_some_iff]
  simp only [AttemptEvent.verdict?_eq_none_iff]
  constructor
  · intro hparts
    obtain ⟨quiet, event, rest, hevents, hverdict, hquiet⟩ := hparts
    exact ⟨quiet, event, rest, hevents, hquiet, hverdict⟩
  · intro hparts
    obtain ⟨quiet, event, rest, hevents, hquiet, hverdict⟩ := hparts
    exact ⟨quiet, event, rest, hevents, hverdict, hquiet⟩

/-- Quiet events do not count. -/
theorem findSome?_verdict?_filter (events : List AttemptEvent) :
    (events.filter (!·.isQuiet)).findSome? AttemptEvent.verdict? =
      events.findSome? AttemptEvent.verdict? := by
  induction events with
  | nil => rfl
  | cons event events ih =>
    by_cases hquiet : event.isQuiet = true
    · rw [List.filter_cons_of_neg (by simp [hquiet]), ih, List.findSome?_cons,
        AttemptEvent.verdict?_eq_none_iff.mpr hquiet]
    · rw [List.filter_cons_of_pos (by simpa using hquiet), List.findSome?_cons, ih,
        List.findSome?_cons]

/-! ## Checks that wait -/

namespace Watch

/-- A check waits, and has seen all of a signal that is neither raised nor closed. -/
structure IsAwake (watch : Watch) : Prop where
  waiting : watch.attempt = .waiting watch.signal.version
  isOpen : watch.signal.isOpen = true
  lowered : watch.signal.isRaised = false

/-- A check that waits goes on waiting at a quiet event. -/
theorem IsAwake.step_of_quiet (h : watch.IsAwake) (quiet : event.isQuiet = true) :
    (watch.step event).IsAwake := by
  match event with
  | .signal (.set false) =>
    have hafter : watch.signal.after (.set false) =
        { watch.signal with isRaised := false, version := watch.signal.version + 1 } := by
      rw [Signal.after, if_pos h.isOpen]
    refine ⟨?_, ?_, ?_⟩
    · simp [step, hafter, h.waiting, Attempt.poll, Signal.look, h.isOpen]
    · simp [step, hafter, h.isOpen]
    · simp [step, hafter]

/-- A check that waits ends at any other event. -/
theorem IsAwake.attempt_step (h : watch.IsAwake) (ends : event.verdict? = some result) :
    (watch.step event).attempt = .finished result := by
  match event with
  | .signal (.set true) =>
    obtain rfl : none = result := Option.some.inj ends
    simp [step, Signal.after, h.isOpen, h.waiting, Attempt.poll, Signal.look]
  | .signal .close =>
    obtain rfl : none = result := Option.some.inj ends
    simp [step, Signal.after, h.isOpen, h.lowered, h.waiting, Attempt.poll, Signal.look]
  | .answer status =>
    obtain rfl : some status = result := Option.some.inj ends
    simp [step, h.waiting, Attempt.poll]

/-- A check that has ended stays as it is. -/
theorem attempt_run_of_finished (h : watch.attempt = .finished result)
    (events : List AttemptEvent) : (watch.run events).attempt = .finished result := by
  induction events generalizing watch with
  | nil => exact h
  | cons event events ih =>
    refine @ih (watch.step event) ?_
    cases event <;> simp [step, h, Attempt.poll]

/-- No event takes back whether a check was begun. -/
theorem hasBegun_run (watch : Watch) (events : List AttemptEvent) :
    (watch.run events).hasBegun = watch.hasBegun := by
  induction events generalizing watch with
  | nil => rfl
  | cons event events ih =>
    refine (ih (watch.step event)).trans ?_
    cases event <;> rfl

/-- A check that waits ends at the first event that is not quiet. -/
theorem IsAwake.result_run (h : watch.IsAwake) (events : List AttemptEvent) :
    (watch.run events).attempt.result? = events.findSome? AttemptEvent.verdict? := by
  induction events generalizing watch with
  | nil => simp [run, h.waiting, Attempt.result?]
  | cons event events ih =>
    rw [List.findSome?_cons]
    change ((watch.step event).run events).attempt.result? = _
    cases hverdict : event.verdict? with
    | none => exact ih (h.step_of_quiet (AttemptEvent.verdict?_eq_none_iff.mp hverdict))
    | some result => simp [attempt_run_of_finished (h.attempt_step hverdict), Attempt.result?]

/-- After some events a check still waits, and one more ends it. -/
def EndsAt (watch : Watch) (before : List AttemptEvent) (event : AttemptEvent) : Prop :=
  (watch.run before).attempt.result? = none ∧
    (watch.run (before ++ [event])).attempt.result? ≠ none

/-- A check that waits ends at an event if this is not quiet and all before it are. -/
theorem IsAwake.endsAt_iff (h : watch.IsAwake) :
    watch.EndsAt before event ↔ (∀ e ∈ before, e.isQuiet = true) ∧ ¬event.isQuiet = true := by
  simp only [EndsAt, h.result_run, ne_eq, List.findSome?_eq_none_iff,
    AttemptEvent.verdict?_eq_none_iff, List.forall_mem_append, List.forall_mem_singleton]
  exact and_congr_right fun hquiet => not_congr (and_iff_right hquiet)

/-! ## Checks that begin -/

/-- Somebody is left to set a signal unless it was closed. -/
theorem isOpen_foldl_after :
    (earlier.foldl Signal.after signal).isOpen = true ↔
      signal.isOpen = true ∧ SignalEvent.close ∉ earlier := by
  induction earlier generalizing signal with
  | nil => simp
  | cons event earlier ih =>
    have hafter : (signal.after event).isOpen = true ↔ signal.isOpen = true ∧ .close ≠ event := by
      cases hopen : signal.isOpen <;> cases event <;> simp [Signal.after, hopen]
    rw [List.foldl_cons, ih, hafter, List.mem_cons, not_or, and_assoc]

/-- Under a raised signal a check is given up before it asks anything. -/
theorem start_of_raised (raised : (earlier.foldl Signal.after signal).isRaised = true)
    (answer : Option Status) :
    start signal earlier answer = ⟨earlier.foldl Signal.after signal, .finished none, false⟩ :=
  if_pos raised

/-- A check whose signal nobody is left to set is given up at once. -/
theorem attempt_start_of_closed (closed : SignalEvent.close ∈ earlier) :
    (start signal earlier none).attempt = .finished none := by
  have hopen : (earlier.foldl Signal.after signal).isOpen = false := by
    rw [← Bool.not_eq_true, isOpen_foldl_after]
    exact fun h => h.2 closed
  rw [start]
  split
  case isTrue => rfl
  case isFalse quiet => simp [Attempt.poll, Signal.look, quiet, hopen]

/-- Any other check waits, whatever happened before it began. -/
theorem isAwake_start (lowered : (earlier.foldl Signal.after signal).isRaised = false)
    (isOpen : signal.isOpen = true) (unclosed : SignalEvent.close ∉ earlier) :
    (start signal earlier none).IsAwake := by
  have hopen : (earlier.foldl Signal.after signal).isOpen = true :=
    isOpen_foldl_after.mpr ⟨isOpen, unclosed⟩
  rw [start, if_neg (by simp [lowered])]
  exact ⟨by simp [Attempt.poll, Signal.look, lowered, hopen], hopen, lowered⟩

/-- A check has ended when it begins, or it waits. -/
theorem finished_or_isAwake_start (isOpen : signal.isOpen = true) (earlier : List SignalEvent) :
    (start signal earlier none).attempt = .finished none ∨ (start signal earlier none).IsAwake := by
  by_cases closed : SignalEvent.close ∈ earlier
  · exact .inl (attempt_start_of_closed closed)
  cases raised : (earlier.foldl Signal.after signal).isRaised with
  | true => exact .inl (by rw [start_of_raised raised])
  | false => exact .inr (isAwake_start raised isOpen closed)

/-! ## Events that make no difference -/

/-- The same events, quiet ones apart, come to the same result. -/
theorem result_run_congr (h : watch.attempt = .finished none ∨ watch.IsAwake)
    (same : events.filter (!·.isQuiet) = others.filter (!·.isQuiet)) :
    (watch.run events).attempt.result? = (watch.run others).attempt.result? := by
  rcases h with ended | awake
  · rw [attempt_run_of_finished ended, attempt_run_of_finished ended]
  · rw [awake.result_run, awake.result_run, ← findSome?_verdict?_filter, same,
      findSome?_verdict?_filter]

/-- The same events, quiet ones apart, end a check at the same event. -/
theorem EndsAt.exists_endsAt (h : watch.attempt = .finished none ∨ watch.IsAwake)
    {after : List AttemptEvent} (ends : watch.EndsAt before event)
    (same : (before ++ event :: after).filter (!·.isQuiet) = others.filter (!·.isQuiet)) :
    ∃ before' after', others = before' ++ event :: after' ∧ watch.EndsAt before' event ∧
      before.filter (!·.isQuiet) = before'.filter (!·.isQuiet) := by
  rcases h with ended | awake
  · -- A check that has ended is not ended by anything.
    have hresult := ends.1
    rw [attempt_run_of_finished ended] at hresult
    exact absurd hresult (Option.some_ne_none _)
  · obtain ⟨hquiet, hevent⟩ := awake.endsAt_iff.mp ends
    have hbefore : before.filter (!·.isQuiet) = [] :=
      List.filter_eq_nil_iff.mpr fun e he => by simp [hquiet e he]
    rw [List.filter_append, hbefore, List.nil_append,
      List.filter_cons_of_pos (by simpa using hevent), eq_comm, List.filter_eq_cons_iff] at same
    obtain ⟨before', after', hothers, hquiet', -, -⟩ := same
    have hquiet'' : ∀ e ∈ before', e.isQuiet = true := by simpa using hquiet'
    refine ⟨before', after', hothers, awake.endsAt_iff.mpr ⟨hquiet'', hevent⟩, ?_⟩
    rw [hbefore, eq_comm, List.filter_eq_nil_iff]
    exact hquiet'

/-! ## What a check under a signal comes to -/

/-- Under a signal that is raised when it begins, a check comes to nothing and never asks. If
nobody is left to set the signal it comes to nothing too. Otherwise the first event decides that
does not lower the signal: if the signal is raised or its setter gone, the check comes to nothing,
and if the backend answers, to what the answer shows. Lowering the signal any number of times, at
whatever times, changes neither the result nor the event that brings it. -/
theorem result_under_signal (initial : Bool) (earlier : List SignalEvent) :
    let signal := earlier.foldl Signal.after (.initial initial)
    let watch := start (.initial initial) earlier none
    (signal.isRaised = true → ∀ events, (watch.run events).attempt.result? = some none ∧
      (watch.run events).hasBegun = false) ∧
    (SignalEvent.close ∈ earlier → ∀ events, (watch.run events).attempt.result? = some none) ∧
    (signal.isRaised = false → SignalEvent.close ∉ earlier → ∀ events,
      ((watch.run events).attempt.result? = some none ↔ ∃ quiet event rest,
        events = quiet ++ event :: rest ∧ (∀ e ∈ quiet, e.isQuiet = true) ∧
          (event = .signal (.set true) ∨ event = .signal .close)) ∧
      ∀ status, (watch.run events).attempt.result? = some (some status) ↔ ∃ quiet event rest,
        events = quiet ++ event :: rest ∧ (∀ e ∈ quiet, e.isQuiet = true) ∧
          event = .answer status) ∧
    ∀ events others, events.filter (!·.isQuiet) = others.filter (!·.isQuiet) →
      (watch.run events).attempt.result? = (watch.run others).attempt.result? ∧
      ∀ before event after, events = before ++ event :: after → watch.EndsAt before event →
        ∃ before' after', others = before' ++ event :: after' ∧ watch.EndsAt before' event ∧
          before.filter (!·.isQuiet) = before'.filter (!·.isQuiet) := by
  intro signal watch
  have hstart : watch.attempt = .finished none ∨ watch.IsAwake :=
    finished_or_isAwake_start rfl earlier
  refine ⟨?_, ?_, ?_, ?_⟩
  · intro raised events
    have hwatch : watch = ⟨signal, .finished none, false⟩ := start_of_raised raised none
    have hended : watch.attempt = .finished none := by rw [hwatch]
    refine ⟨?_, ?_⟩
    · rw [attempt_run_of_finished hended]
      rfl
    · rw [hasBegun_run, hwatch]
  · intro closed events
    have hended : watch.attempt = .finished none := attempt_start_of_closed closed
    rw [attempt_run_of_finished hended]
    rfl
  · intro lowered unclosed events
    have awake : watch.IsAwake := isAwake_start lowered rfl unclosed
    rw [awake.result_run]
    refine ⟨?_, fun status => ?_⟩
    · simp only [findSome?_verdict?_eq_some_iff, AttemptEvent.verdict?_eq_some_none_iff]
    · simp only [findSome?_verdict?_eq_some_iff, AttemptEvent.verdict?_eq_some_some_iff]
  · intro events others same
    refine ⟨result_run_congr hstart same, ?_⟩
    rintro before event after rfl ends
    exact ends.exists_endsAt hstart same

/-- A check whose signal was raised and lowered again before it began is answered, whether or not
the signal is lowered once more; one whose signal was raised last, or closed, comes to nothing. -/
theorem result_under_signal_lowered :
    let watch := start (.initial false) [.set true, .set false] none
    (watch.run [.signal (.set false), .answer .error]).attempt.result? = some (some .error) ∧
      (watch.run [.answer .error]).attempt.result? = some (some .error) ∧
      ((start (.initial false) [.set true] none).run [.answer .error]).attempt.result? =
        some none ∧
      ((start (.initial false) [.close] none).run [.answer .error]).attempt.result? =
        some none := by
  intro watch
  obtain ⟨-, -, hopen, hquiet⟩ := result_under_signal false [.set true, .set false]
  have hanswer : (watch.run [.signal (.set false), .answer .error]).attempt.result? =
      some (some .error) := by
    refine ((hopen rfl (by decide) [.signal (.set false), .answer .error]).2 .error).mpr ?_
    exact ⟨[.signal (.set false)], .answer .error, [], rfl, by simp [AttemptEvent.isQuiet], rfl⟩
  have hsame := (hquiet [.signal (.set false), .answer .error] [.answer .error] rfl).1
  obtain ⟨hraised, -⟩ := result_under_signal false [.set true]
  obtain ⟨-, hclosed, -⟩ := result_under_signal false [.close]
  exact ⟨hanswer, hsame.symm.trans hanswer, (hraised rfl _).1, hclosed (by decide) _⟩

end Watch

end HealthPanel
