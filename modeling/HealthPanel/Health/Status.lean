import HealthPanel.Health.Payload

/-!
# The display state of a backend

One probe ends in one of three states. Each has an indicator for people and a label for
machines, and only a connected backend has a payload.
-/

namespace HealthPanel

/-- The outcome of one probe. -/
inductive Status
  /-- A success status with a JSON body. -/
  | connected (payload : Payload)
  /-- A status that is no success. The body is never read. -/
  | error
  /-- No answer, no complete answer, or a body that is no JSON. -/
  | unreachable

namespace Status

/-- What a panel shows before the first probe has ended. -/
def checkingIndicator : String := "checking..."

/-- What a panel shows for the state. -/
def indicator : Status → String
  | connected _ => "✅ Connected"
  | error => "❌ Error"
  | unreachable => "⚠️ Backend not running (expected for static preview)"

/-- The name of the state in metrics and reports. -/
def label : Status → String
  | connected _ => "connected"
  | error => "error"
  | unreachable => "unreachable"

/-- The payload of a connected backend. -/
def payload? : Status → Option Payload
  | connected payload => some payload
  | _ => none

/-- Whether the backend answered as it should. -/
def isConnected : Status → Bool
  | connected _ => true
  | _ => false

/-- The state as a document: its name, and the payload if there is one. -/
def toJson : Status → Json.Value
  | connected payload =>
    .object [("state", .text "connected"), ("payload", payload.document)]
  | status => .object [("state", .text status.label)]

/-- The state has a payload exactly when the backend is connected. -/
theorem isSome_payload? (status : Status) : status.payload?.isSome = status.isConnected := by
  cases status <;> rfl

end Status

end HealthPanel
