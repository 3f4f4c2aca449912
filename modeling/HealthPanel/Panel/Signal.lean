import HealthPanel.Health.Status

/-!
# The shutdown signal

A signal holds its latest value and counts how often it was set. A listener knows how often the
signal had been set when it last looked, so that it sees that there is news, but of several
values only the last. It stops when it sees the signal raised, or when nobody is left to set it.
-/

namespace HealthPanel

/-- A signal that somebody may set. -/
structure Signal where
  isRaised : Bool
  version : Nat
  /-- Whether somebody is left who may set it. -/
  isOpen : Bool
  deriving DecidableEq

/-- What happens to a signal. -/
inductive SignalEvent
  | set (isRaised : Bool)
  /-- Whoever set the signal is gone. -/
  | close
  deriving DecidableEq

namespace Signal

/-- A signal that has not been set since it was made. -/
def initial (isRaised : Bool) : Signal :=
  ⟨isRaised, 0, true⟩

/-- The signal after an event. A closed signal stays as it is. -/
def after (signal : Signal) (event : SignalEvent) : Signal :=
  if signal.isOpen then
    match event with
    | .set isRaised => { signal with isRaised, version := signal.version + 1 }
    | .close => { signal with isOpen := false }
  else signal

/-- Whether a listener stops when it looks, and what it has seen then. -/
def look (signal : Signal) (seen : Nat) : Bool × Nat :=
  if signal.version ≠ seen ∧ signal.isRaised then (true, signal.version)
  else (!signal.isOpen, signal.version)

end Signal

/-! ## A check under a signal -/

/-- A check that is given up when the signal is raised. -/
inductive Attempt
  /-- The check has not ended; what its listener has seen. -/
  | waiting (seen : Nat)
  /-- The check has ended, with nothing if it was given up. -/
  | finished (result : Option Status)

namespace Attempt

/-- The result of a check that has ended. -/
def result? : Attempt → Option (Option Status)
  | waiting _ => none
  | finished result => some result

/-- The attempt after it has looked whether there is an answer, and then at the signal. -/
def poll (signal : Signal) (answer : Option Status) : Attempt → Attempt
  | finished result => finished result
  | waiting seen =>
    match answer with
    | some status => finished (some status)
    | none =>
      match signal.look seen with
      | (true, _) => finished none
      | (false, seen) => waiting seen

end Attempt

/-- What happens while a check is under way. -/
inductive AttemptEvent
  | signal (event : SignalEvent)
  | answer (status : Status)

/-- A signal and a check under it. -/
structure Watch where
  signal : Signal
  attempt : Attempt
  /-- Whether the check was begun. Only then may its request have been sent. -/
  hasBegun : Bool

namespace Watch

/-- Starts a check after some events of its signal, which its listener has not seen. Under a raised
signal the check is given up before it asks anything. `answer` is there when it ends at once. -/
def start (signal : Signal) (earlier : List SignalEvent) (answer : Option Status) : Watch :=
  let later := earlier.foldl Signal.after signal
  if later.isRaised then ⟨later, .finished none, false⟩
  else ⟨later, Attempt.poll later answer (.waiting signal.version), true⟩

/-- An event, and the attempt's look at it. -/
def step (watch : Watch) : AttemptEvent → Watch
  | .signal event =>
    let signal := watch.signal.after event
    { watch with signal, attempt := watch.attempt.poll signal none }
  | .answer status => { watch with attempt := watch.attempt.poll watch.signal (some status) }

/-- Events one after another. -/
def run (watch : Watch) (events : List AttemptEvent) : Watch :=
  events.foldl step watch

end Watch

end HealthPanel
