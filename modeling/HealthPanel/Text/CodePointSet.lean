/-!
# Sets of code points

A set is kept as the increasing list of its edges: the code points at which membership changes,
starting from outside. A code point belongs to the set when an odd number of edges lie at or
below it.
-/

namespace HealthPanel

/-- A set of code points, by its edges. -/
structure CodePointSet where
  /-- The set whose membership changes at each of the increasing edges. -/
  ofEdges ::
  edges : List Nat

/-- Whether a character belongs to the set. -/
def CodePointSet.contains (set : CodePointSet) (c : Char) : Bool :=
  set.edges.countP (· ≤ c.toNat) % 2 = 1

end HealthPanel
