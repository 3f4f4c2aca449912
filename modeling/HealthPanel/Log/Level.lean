import HealthPanel.Text.Numeral

/-!
# Log levels

A line is logged at one of five levels, from errors to traces. A limit lets lines pass up to a
level, or none at all.
-/

namespace HealthPanel.Log

/-- The level of a line. -/
inductive Level
  | error
  | warn
  | info
  | debug
  | trace
  deriving DecidableEq

namespace Level

/-- How far a level is from silence. -/
def rank : Level → Nat
  | error => 1
  | warn => 2
  | info => 3
  | debug => 4
  | trace => 5

/-- The name that a line shows. -/
def label : Level → String
  | error => "ERROR"
  | warn => "WARN"
  | info => "INFO"
  | debug => "DEBUG"
  | trace => "TRACE"

end Level

/-- The levels that pass: all up to one, or none. -/
inductive Limit
  | off
  | upTo (level : Level)
  deriving DecidableEq

namespace Limit

/-- The rank of the last level that passes. -/
def rank : Limit → Nat
  | off => 0
  | upTo level => level.rank

/-- Whether lines of a level pass. -/
def allows (limit : Limit) (level : Level) : Bool :=
  level.rank ≤ limit.rank

/-- All limits, by rank. -/
def all : List Limit :=
  [off, upTo .error, upTo .warn, upTo .info, upTo .debug, upTo .trace]

/-- The name of a limit. -/
def name : Limit → String
  | off => "off"
  | upTo .error => "error"
  | upTo .warn => "warn"
  | upTo .info => "info"
  | upTo .debug => "debug"
  | upTo .trace => "trace"

/-- The limit that a text names or numbers. Capital letters make no difference. -/
def ofName? (text : String) : Option Limit :=
  match Text.natural? text with
  | some n => all[n]?
  | none => all.find? (·.name = text.map Char.toLower)

end Limit

end HealthPanel.Log
