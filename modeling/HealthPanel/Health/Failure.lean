import HealthPanel.Time.Span
import HealthPanel.Health.Status
import HealthPanel.Http.StatusCode

/-!
# Why a probe failed

A failed probe has one of four causes. A panel shows two states for them: a status that is no
success is an error, and everything else leaves the backend unreachable.
-/

namespace HealthPanel

/-- The cause of a failed probe, transport faults being of type `τ`. -/
inductive Failure (τ : Type)
  | transport (fault : τ)
  | timeout (limit : Span)
  | protocol (code : Http.StatusCode)
  | decode (fault : Json.LocatedFault)

namespace Failure

variable {τ υ : Type}

/-- The same failure with its transport fault told in another way. -/
def map (f : τ → υ) : Failure τ → Failure υ
  | transport fault => transport (f fault)
  | timeout limit => timeout limit
  | protocol code => protocol code
  | decode fault => decode fault

/-- The cause in words. -/
def message (describe : τ → String) : Failure τ → String
  | transport fault => "Health request failed: " ++ describe fault
  | timeout limit => "Health request timed out after " ++ limit.render
  | protocol code => "Health endpoint returned HTTP " ++ code.render
  | decode fault => "Health response is not valid JSON: " ++ fault.message

/-- The display state of a failed probe. A bad body counts like a dead connection. -/
def status : Failure τ → Status
  | protocol _ => .error
  | transport _ | timeout _ | decode _ => .unreachable

/-- The display state does not depend on how a transport fault is told. -/
@[simp]
theorem status_map (f : τ → υ) (failure : Failure τ) : (failure.map f).status = failure.status := by
  cases failure <;> rfl

end Failure

/-- The display state that a probe ends in. -/
def Status.ofResult {τ : Type} : Except (Failure τ) Payload → Status
  | .ok payload => .connected payload
  | .error failure => failure.status

end HealthPanel
