import HealthPanel.Proofs.Health.Delivery
import HealthPanel.Proofs.Http.Bodies
import HealthPanel.Proofs.SingleRequest

/-!
# Probes whose time runs out

The time of a probe runs out if the last of its requests gets no complete answer before the
deadline while its connection stays open. What the failure is then called is a matter of the client
alone: a client that notices the end of a limit of its own no later than the probe that of its limit
gives up first, and hides that the probe would have. What comes in after the deadline changes
nothing.
-/

namespace HealthPanel.Probe

variable {probe : Probe} {network other : Http.Network} {deadline left : Nat}
  {request : Http.Request} {received : List (List UInt8)} {reader : Http.Reader} {closed : Bool}
  {visit : Visit}

/-! ## Answers that are not complete -/

/-- What a client has taken in is no complete answer: the head is not whole, or it is that of a
success and its body is not whole. -/
inductive IsUnfinished (reader : Http.Reader) (received : List (List UInt8)) : Prop
  | head (unfinished : Http.Head.read reader received = .more)
  | body {head : Http.Head} {framing : Http.Framing} {rest : List UInt8}
    (shows : ShowsHead reader received head framing rest)
    (success : 200 ≤ head.status.number ∧ head.status.number ≤ 299)
    (unfinished : framing.read false rest = .more)

/-- A head tells nothing yet if it is that of a success whose body is not whole. -/
theorem judgeHead_eq_none {head : Http.Head} {framing : Http.Framing} {rest : List UInt8}
    (h : judgeHead request head framing rest closed = none) :
    (200 ≤ head.status.number ∧ head.status.number ≤ 299) ∧ framing.read closed rest = .more := by
  rw [judgeHead] at h
  cases hredirect : head.redirect? request with
  | some next => simp [hredirect] at h
  | none =>
    simp only [hredirect] at h
    split at h
    case isFalse => contradiction
    case isTrue hsuccess =>
      refine ⟨by simpa [Http.StatusCode.isSuccess] using hsuccess, ?_⟩
      rw [Option.map_eq_none_iff, judgeBody] at h
      cases hread : framing.read closed rest with
      | more => rfl
      | bad => simp [hread] at h
      | done body left => simp [hread] at h

/-- Bytes tell nothing exactly as long as they are no complete answer and more may come. -/
theorem judge_eq_none_iff :
    judge reader request received closed = none ↔
      closed = false ∧ IsUnfinished reader received := by
  constructor
  · intro h
    cases hread : Http.Head.read reader received with
    | more =>
      cases closed with
      | false => exact ⟨rfl, .head hread⟩
      | true => simp [judge, hread] at h
    | bad => simp [judge, hread] at h
    | done head rest =>
      cases hframed : head.framing? with
      | none => simp [judge, hread, hframed] at h
      | some framing =>
        have shows : ShowsHead reader received head framing rest := ⟨hread, hframed⟩
        rw [shows.judge_eq] at h
        obtain ⟨success, unfinished⟩ := judgeHead_eq_none h
        cases closed with
        | false => exact ⟨rfl, .body shows success unfinished⟩
        | true => exact absurd unfinished framing.read_closed_ne_more
  · intro hparts
    obtain ⟨rfl, unfinished⟩ := hparts
    cases unfinished with
    | head unfinished => simp [judge, unfinished]
    | @body head framing rest shows success unfinished =>
      have hsuccess : head.status.isSuccess = true := by
        simpa [Http.StatusCode.isSuccess] using success
      rw [shows.judge_eq, judgeHead, redirect?_of_success success]
      simp [hsuccess, judgeBody, unfinished]

/-! ## Requests that get no complete answer -/

/-- Until the deadline a request gets no complete answer, and its connection stays open. -/
def Hangs (network : Http.Network) (deadline : Nat) (visit : Visit) : Prop :=
  ∃ reply, connect network visit.earlier visit.request = .accepted reply ∧
    ∀ wait, visit.sent + wait < deadline →
      reply.isClosedBy wait = false ∧ IsUnfinished network.leeway.reader (reply.heard wait)

/-- A client learns nothing of a request that hangs. -/
theorem hangs_iff {reply : Http.Reply}
    (accepted : connect network visit.earlier visit.request = .accepted reply) :
    Hangs network deadline visit ↔
      reply.await (told network visit) deadline visit.sent = none := by
  rw [Http.Reply.await_eq_none_iff (isSteady_judge _ _)]
  simp only [judge_eq_none_iff]
  constructor
  · intro hparts
    obtain ⟨reply', haccepted, hopen⟩ := hparts
    obtain rfl := Http.Connection.accepted.inj (accepted.symm.trans haccepted)
    exact hopen
  · exact fun hopen => ⟨reply, accepted, hopen⟩

/-- A request that hangs leads to no other. -/
theorem Hangs.not_redirects (h : Hangs network deadline visit) (next : Visit) :
    ¬Redirects network deadline visit next := by
  have ⟨reply, accepted, _⟩ := h
  intro hnext
  obtain ⟨hawait, -⟩ := (redirects_iff accepted).mp hnext
  exact Option.some_ne_none _ (hawait.symm.trans ((hangs_iff accepted).mp h))

/-- A request without a result that leads nowhere hangs. -/
theorem result_send_eq_none_iff_of_last (hlast : ∀ next, ¬Redirects network deadline visit next) :
    (send network deadline left visit.earlier visit.sent visit.request).result = none ↔
      Hangs network deadline visit := by
  cases meets network deadline visit with
  | refused h =>
    rw [send_of_refused h]
    refine iff_of_false (Option.some_ne_none _) fun hhangs => ?_
    obtain ⟨reply, accepted, -⟩ := hhangs
    exact Http.Connection.noConfusion (h.symm.trans accepted)
  | silent accepted untold =>
    rw [send_of_silent accepted untold]
    exact iff_of_true rfl ((hangs_iff accepted).mpr untold)
  | settled h =>
    rw [send_of_settles h]
    refine iff_of_false (Option.some_ne_none _) fun hhangs => ?_
    have ⟨reply, _, accepted, _⟩ := h
    obtain ⟨time, hawait⟩ := (settles_iff accepted).mp h
    exact Option.some_ne_none _ (hawait.symm.trans ((hangs_iff accepted).mp hhangs))
  | astray h =>
    have ⟨_, reply, time, accepted, hawait⟩ := h
    obtain ⟨fault, -, hsend⟩ := h.exists_send_eq left
    rw [hsend]
    refine iff_of_false (Option.some_ne_none _) fun hhangs => ?_
    exact Option.some_ne_none _ (hawait.symm.trans ((hangs_iff accepted).mp hhangs))
  | redirected h => exact absurd h (hlast _)

/-- The requests of a probe have no result if the last of them hangs. -/
theorem result_send_eq_none_iff (visit : Visit) :
    (send network deadline left visit.earlier visit.sent visit.request).result = none ↔
      ∃ last, Relation.ReflTransGen (Redirects network deadline) visit last ∧
        last.earlier ≤ visit.earlier + left ∧ Hangs network deadline last :=
  result_send_iff (Option.some_ne_none _).symm (fun h hangs => hangs.not_redirects _ h)
    result_send_eq_none_iff_of_last visit

/-! ## Probes that get no complete answer -/

/-- A backend accepts the requests of a probe, and the last of them gets no complete answer within
the time of the probe. -/
def Stalls (probe : Probe) (network : Http.Network) : Prop :=
  ∃ first last, probe.request = .ok first ∧
    Relation.ReflTransGen (Redirects network (probe.deadline network)) ⟨0, 0, first⟩ last ∧
    last.earlier ≤ Http.maxRedirects ∧ Hangs network (probe.deadline network) last

/-- A probe has no result of its own exactly if the backend stalls. -/
theorem result_trace_eq_none_iff :
    (probe.trace network).result = none ↔ probe.Stalls network := by
  cases hrequest : probe.request with
  | error fault => simp [trace_of_error hrequest, Stalls, hrequest]
  | ok first =>
    rw [trace_of_ok hrequest, result_send_eq_none_iff ⟨0, 0, first⟩, Stalls]
    simp [hrequest]

/-- A probe on a backend that stalls fails because its time runs out. -/
theorem Stalls.fetch_eq (h : probe.Stalls network) :
    probe.fetch network = .error (probe.expiry network) := by
  rw [fetch, result_trace_eq_none_iff.mpr h, Option.getD_none]

/-- Until the deadline a request meets the same on two networks. -/
inductive Agrees (network other : Http.Network) (deadline : Nat) (visit : Visit) : Prop
  | refused (here : connect network visit.earlier visit.request = .refused)
    (there : connect other visit.earlier visit.request = .refused)
  | accepted {reply reply' : Http.Reply}
    (here : connect network visit.earlier visit.request = .accepted reply)
    (there : connect other visit.earlier visit.request = .accepted reply')
    (agree : reply.AgreesBefore reply' (deadline - visit.sent))

/-- Requests that meet the same until the deadline come to the same. -/
theorem send_eq_of_agrees (alike : other.leeway = network.leeway) (visit : Visit)
    (agree : ∀ last, Relation.ReflTransGen (Redirects network deadline) visit last →
      last.earlier ≤ visit.earlier + left → Agrees network other deadline last) :
    send other deadline left visit.earlier visit.sent visit.request =
      send network deadline left visit.earlier visit.sent visit.request := by
  induction left generalizing visit with
  | zero =>
    cases agree visit .refl (Nat.le_add_right _ _) with
    | refused here there => simp [send, here, there]
    | accepted here there agree =>
      simp [send, here, there, alike, agree.await_eq (isSteady_judge _ visit.request)]
  | succ left ih =>
    cases agree visit .refl (Nat.le_add_right _ _) with
    | refused here there => simp [send, here, there]
    | @accepted reply reply' here there hreplies =>
      have hsame : reply.await (told network visit) deadline visit.sent =
          reply'.await (told network visit) deadline visit.sent :=
        hreplies.await_eq (isSteady_judge _ visit.request)
      cases hawait : reply.await (told network visit) deadline visit.sent with
      | none => simp [send, here, there, alike, ← hsame, hawait]
      | some heard =>
        obtain ⟨time, verdict⟩ := heard
        cases verdict with
        | settled result => simp [send, here, there, alike, ← hsame, hawait]
        | redirected request =>
          cases hweb : request.isOfWeb with
          | false => simp [send, here, there, alike, ← hsame, hawait, hweb]
          | true =>
            have hnext : Redirects network deadline visit ⟨visit.earlier + 1, time, request⟩ :=
              (redirects_iff here).mpr ⟨hawait, hweb, rfl⟩
            -- what the next request leads to, this one leads to as well
            have hrest := ih ⟨visit.earlier + 1, time, request⟩ fun last reaches few =>
              agree last (reaches.head hnext) (by simp only at few; omega)
            rw [send, there, send, here]
            simp only [alike, ← hsame, hawait, hweb, if_true]
            rw [hrest]

/-- Every request that a probe sends meets the same on two networks, as long as its time has not
run out. -/
structure CannotTell (probe : Probe) (network other : Http.Network) : Prop where
  leeway : other.leeway = network.leeway
  agree : ∀ first visit, probe.request = .ok first →
    Relation.ReflTransGen (Redirects network (probe.deadline network)) ⟨0, 0, first⟩ visit →
    visit.earlier ≤ Http.maxRedirects → Agrees network other (probe.deadline network) visit

/-- What a probe does depends on nothing that comes in after its time. -/
theorem CannotTell.trace_eq (h : probe.CannotTell network other) :
    probe.trace other = probe.trace network := by
  have hdeadline : probe.deadline other = probe.deadline network := by
    simp only [deadline, clientEnd?, h.leeway]
  cases hrequest : probe.request with
  | error fault => rw [trace_of_error hrequest, trace_of_error hrequest]
  | ok first =>
    rw [trace_of_ok hrequest, trace_of_ok hrequest, hdeadline]
    refine send_eq_of_agrees h.leeway ⟨0, 0, first⟩ fun last reaches few => ?_
    exact h.agree first last hrequest reaches (by simpa using few)

/-- What a probe ends with depends on nothing that comes in after its time. -/
theorem CannotTell.fetch_eq (h : probe.CannotTell network other) :
    probe.fetch other = probe.fetch network := by
  have hexpiry : probe.expiry other = probe.expiry network := by
    rw [expiry, expiry, clientEnd?, clientEnd?, h.leeway]
  rw [fetch, h.trace_eq, hexpiry, fetch]

/-! ## What the failure is called -/

end HealthPanel.Probe
