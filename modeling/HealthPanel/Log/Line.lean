import HealthPanel.Json.Writer
import HealthPanel.Log.Filter

/-!
# Log lines

A line has a level, a target and a message, and is logged within an activation of a panel or
outside of any. It is written as text or as a document.
-/

namespace HealthPanel.Log

/-- The activation that lines are logged in. -/
structure Activation where
  id : String
  url : String
  deriving DecidableEq

/-- A line of the log. -/
structure Line where
  level : Level
  target : String
  /-- The activation that it is logged in, if any. -/
  activation : Option Activation
  message : String
  deriving DecidableEq

namespace Activation

/-- The scope of an activation. -/
def scope (activation : Activation) : Scope :=
  { name := "activation", level := .info, target := "status_probe::view::status_view"
    fields := [("id", activation.id), ("url", activation.url)] }

/-- The activation as a document. -/
def toJson (activation : Activation) : Json.Value :=
  .object [("id", .text activation.id), ("url", .text activation.url),
    ("name", .text activation.scope.name)]

/-- The activation as text. -/
def text (activation : Activation) : String :=
  activation.scope.name ++ "\x7bid=" ++ activation.id ++ " url=" ++ activation.url ++ "\x7d: "

end Activation

namespace Line

/-- The line as the filter lets it pass, if it does: without its activation where that is not
shown. -/
def filtered? (line : Line) (filter : Filter) : Option Line :=
  let scope := line.activation.map Activation.scope
  if filter.passes line.level ⟨line.target, ["message"]⟩ scope then
    some (if scope.all filter.opens then line else { line with activation := none })
  else none

/-- The line as text, after the time that it was logged at. -/
def text (line : Line) (time : String) : String :=
  let label := line.level.label
  time ++ " " ++ String.ofList (List.replicate (5 - label.length) ' ') ++ label ++ " "
    ++ line.activation.elim "" Activation.text ++ line.target ++ ": " ++ line.message

/-- The line as a document. -/
def toJson (line : Line) (time : String) : Json.Value :=
  .object (
    [("timestamp", .text time), ("level", .text line.level.label),
      ("fields", .object [("message", .text line.message)]), ("target", .text line.target)]
    ++ match line.activation with
      | none => []
      | some activation =>
        [("span", activation.toJson), ("spans", .list [activation.toJson])])

end Line

end HealthPanel.Log
