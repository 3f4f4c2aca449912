import HealthPanel.Proofs.Health.Visits

/-!
# What a probe makes of its final response

The final response is the first that is not a redirect to be followed. Its head decides whether
its body matters: the body of a success has to come whole and be a document, and that of any other
response is never looked at. Everything that keeps a probe from such a response, or from such a
body, leaves the backend unreachable.
-/

namespace HealthPanel.Probe

variable {probe : Probe} {network : Http.Network}

/-- A probe with the client that it brings along ends when its limit has passed. -/
@[simp] theorem deadline_ofConfig (endpoint : Endpoint) (limits : ProbeLimits) :
    (ofConfig endpoint limits).deadline network = limits.timeout.inNanoseconds := by
  have hown : ∀ (own lag : Nat) (limit : Span), limit.inNanoseconds = own →
      ((some limit).map (·.inNanoseconds + lag)).elim own (min own) = own := by
    intro own lag limit h
    rw [Option.map_some, Option.elim_some, h]
    exact Nat.min_eq_left (Nat.le_add_right own lag)
  exact hown limits.timeout.inNanoseconds network.leeway.lag limits.timeout rfl

/-- Within its time a probe has received the head of its final response, the first that is not a
redirect to be followed, and the rest after it; `closed` says whether more may still come. -/
def Receives (probe : Probe) (network : Http.Network) (head : Http.Head) (framing : Http.Framing)
    (rest : List UInt8) (closed : Bool) : Prop :=
  ∃ first last reply wait, probe.request = .ok first ∧
    Relation.ReflTransGen (Redirects network (probe.deadline network)) ⟨0, 0, first⟩ last ∧
    last.earlier ≤ Http.maxRedirects ∧
    connect network last.earlier last.request = .accepted reply ∧
    last.sent + wait < probe.deadline network ∧
    ShowsHead network.leeway.reader (reply.heard wait) head framing rest ∧
    reply.isClosedBy wait = closed ∧
    head.redirect? last.request = none

-- The equation of `trace` itself is not used: to state it, all redirects would be unfolded.
/-- Without a request nothing is sent. -/
theorem trace_of_error {fault : Http.RequestFault} (h : probe.request = .error fault) :
    probe.trace network = ⟨[], some (broken (.request fault))⟩ := by
  delta trace
  rw [h]

/-- With its first request the probe begins. -/
theorem trace_of_ok {first : Http.Request} (h : probe.request = .ok first) :
    probe.trace network = send network (probe.deadline network) Http.maxRedirects 0 0 first := by
  delta trace
  rw [h]

end HealthPanel.Probe
