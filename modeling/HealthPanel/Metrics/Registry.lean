import HealthPanel.Metrics

/-!
# The registry of metrics

A registry knows the families that are shown together, each name once. Metrics are made on a
registry by registering their two families, the counters first.
-/

namespace HealthPanel

/-- The names of the families that are shown together. -/
structure Registry where
  families : List String
  deriving DecidableEq

/-- Why metrics cannot be made on a registry. -/
inductive RegistryFault
  | duplicate (family : String)
  deriving DecidableEq

/-- The fault in words. -/
def RegistryFault.message : RegistryFault → String
  | duplicate _ => "Duplicate metrics collector registration attempted"

namespace Registry

/-- A registry of no families. -/
def empty : Registry := ⟨[]⟩

/-- Adds a family, whose name must be new. -/
def register (registry : Registry) (family : String) : Except RegistryFault Registry :=
  if family ∈ registry.families then .error (.duplicate family)
  else .ok ⟨registry.families ++ [family]⟩

/-- A family is refused exactly when its name is there already. -/
theorem register_eq_error_iff {registry : Registry} {family : String} :
    registry.register family = .error (.duplicate family) ↔ family ∈ registry.families := by
  simp [register]

/-- Makes metrics on a registry. -/
def addMetrics (registry : Registry) : Except RegistryFault (Registry × Metrics) := do
  let registry ← registry.register Metrics.checksName
  let registry ← registry.register Metrics.timesName
  return (registry, .empty)

end Registry

end HealthPanel
