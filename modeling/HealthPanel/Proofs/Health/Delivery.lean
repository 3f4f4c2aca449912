import HealthPanel.Proofs.Health.Classification

/-!
# What a probe makes of the bytes that it has received

The result of a probe is told by the bytes that have come in on its last connection. Where these
settle the request, the probe ends with what they tell, however many pieces they came in and
whatever would have come after them.
-/

namespace HealthPanel.Probe

variable {probe : Probe} {network : Http.Network} {received : List (List UInt8)}
  {bytes rest : List UInt8} {reader : Http.Reader} {closed : Bool} {head : Http.Head}
  {framing : Http.Framing} {first : Http.Request} {last : Visit}
  {result : Except ProbeFailure Payload}

/-- Within its time a probe has taken this in in answer to one of its requests; `closed` says
whether the connection has ended behind it. -/
def TakesIn (probe : Probe) (network : Http.Network) (received : List (List UInt8))
    (closed : Bool) : Prop :=
  ∃ first last reply wait, probe.request = .ok first ∧
    Relation.ReflTransGen (Redirects network (probe.deadline network)) ⟨0, 0, first⟩ last ∧
    last.earlier ≤ Http.maxRedirects ∧
    connect network last.earlier last.request = .accepted reply ∧
    last.sent + wait < probe.deadline network ∧
    reply.heard wait = received ∧ reply.isClosedBy wait = closed

/-- Within its time a probe has received these bytes in answer to one of its requests, however it
has taken them in. -/
def Delivers (probe : Probe) (network : Http.Network) (bytes : List UInt8) (closed : Bool) : Prop :=
  ∃ received, probe.TakesIn network received closed ∧ received.flatten = bytes

/-- A probe ends with what settles one of its requests. -/
theorem fetch_of_settles (hfirst : probe.request = .ok first)
    (reaches :
      Relation.ReflTransGen (Redirects network (probe.deadline network)) ⟨0, 0, first⟩ last)
    (few : last.earlier ≤ Http.maxRedirects)
    (settles : Settles network (probe.deadline network) last result)
    (notOwn : ∀ fault, IsOwnFault fault → result ≠ broken fault) :
    probe.fetch network = result := by
  have htrace : (probe.trace network).result = some result := by
    rw [trace_of_ok hfirst]
    refine (result_send_eq_some_iff ⟨0, 0, first⟩ notOwn).mpr ?_
    exact ⟨last, reaches, by rwa [Nat.zero_add], settles⟩
  rw [fetch, htrace, Option.getD_some]

/-- A probe ends with what is told by what it has taken in. -/
theorem TakesIn.fetch_eq (h : probe.TakesIn network received closed)
    (told : ∀ request,
      judge network.leeway.reader request received closed = some (.settled result))
    (notOwn : ∀ fault, IsOwnFault fault → result ≠ broken fault) :
    probe.fetch network = result := by
  obtain ⟨first, last, reply, wait, hfirst, reaches, few, accepted, inTime, rfl, rfl⟩ := h
  have hsettles : Settles network (probe.deadline network) last result :=
    ⟨reply, wait, accepted, inTime, told last.request⟩
  exact fetch_of_settles hfirst reaches few hsettles notOwn

/-- A body tells of no fault before its head. -/
theorem judgeBody_ne_broken {fault : TransportFault} (h : fault ≠ .badBody) :
    judgeBody framing rest closed ≠ some (broken fault) := by
  rw [judgeBody]
  cases hread : framing.read closed rest with
  | more => simp
  | bad => simp [broken, h.symm]
  | done body left =>
    cases hpayload : Payload.ofBytes body <;> simp [hpayload, broken, Except.mapError]

/-- The head of a success leads nowhere. -/
theorem redirect?_of_success (success : 200 ≤ head.status.number ∧ head.status.number ≤ 299)
    (request : Http.Request) : head.redirect? request = none := by
  have hstays : Http.isRedirect head.status = false := by
    simp only [Http.isRedirect, decide_eq_false_iff_not, List.mem_cons, List.not_mem_nil, or_false]
    omega
  rw [Http.Head.redirect?, hstays]
  rfl

/-- What holds the head of a success settles the request with what the rest tells. -/
theorem ShowsHead.judge_of_success (h : ShowsHead reader received head framing rest)
    (success : 200 ≤ head.status.number ∧ head.status.number ≤ 299)
    (told : judgeBody framing rest closed = some result) (request : Http.Request) :
    judge reader request received closed = some (.settled result) := by
  have hsuccess : head.status.isSuccess = true := by
    simpa [Http.StatusCode.isSuccess] using success
  rw [h.judge_eq, judgeHead, redirect?_of_success success]
  simp [hsuccess, told]

/-- A probe that has taken in the head of a success ends with what the rest tells. -/
theorem TakesIn.fetch_of_success (h : probe.TakesIn network received closed)
    (shows : ShowsHead network.leeway.reader received head framing rest)
    (success : 200 ≤ head.status.number ∧ head.status.number ≤ 299)
    (told : judgeBody framing rest closed = some result) : probe.fetch network = result := by
  refine h.fetch_eq (shows.judge_of_success success told) ?_
  rintro fault own rfl
  refine judgeBody_ne_broken ?_ told
  rintro rfl
  cases own

/-- A probe that has received a head has taken in what shows it. -/
theorem Receives.exists_takesIn (h : probe.Receives network head framing rest closed) :
    ∃ received, probe.TakesIn network received closed ∧
      ShowsHead network.leeway.reader received head framing rest := by
  obtain ⟨first, last, reply, wait, hfirst, reaches, few, accepted, inTime, shows, hclosed, -⟩ := h
  exact ⟨reply.heard wait, ⟨first, last, reply, wait, hfirst, reaches, few, accepted, inTime, rfl,
    hclosed⟩, shows⟩

/-- A probe whose final response is a success ends with what its body tells. -/
theorem Receives.fetch_of_success (h : probe.Receives network head framing rest closed)
    (success : 200 ≤ head.status.number ∧ head.status.number ≤ 299)
    (told : judgeBody framing rest closed = some result) : probe.fetch network = result := by
  obtain ⟨received, takesIn, shows⟩ := h.exists_takesIn
  exact takesIn.fetch_of_success shows success told

end HealthPanel.Probe
