import HealthPanel.Proofs.Health.Verdict
import Mathlib.Logic.Relation

/-!
# The requests of a probe

A probe sends a first request, and every redirect that it follows makes it send another. Each
request is sent when the head that leads to it has come in. Which requests there are, and what the
last one tells, is a matter of what has come in at which time. A redirect to a place that no request
can be sent to is not followed, and ends the probe.
-/

namespace HealthPanel.Probe

/-- A request of a probe under way. -/
@[ext]
structure Visit where
  /-- How many redirects have been followed before. -/
  earlier : Nat
  /-- When it is sent, in nanoseconds since the probe began. -/
  sent : Nat
  request : Http.Request

variable {network : Http.Network} {deadline left : Nat} {visit next last : Visit}

/-- A reply shows its head some time after the request, and not before. -/
def FirstShows (reader : Http.Reader) (reply : Http.Reply) (wait : Nat) (head : Http.Head) : Prop :=
  (∃ framing rest, ShowsHead reader (reply.heard wait) head framing rest) ∧
    ∀ early, early < wait → ∀ head framing rest,
      ¬ShowsHead reader (reply.heard early) head framing rest

/-- Before the deadline the reply to a request has shown a head that leads to the next one, which
can be sent and is sent at once. -/
def Redirects (network : Http.Network) (deadline : Nat) (visit next : Visit) : Prop :=
  ∃ reply wait head, connect network visit.earlier visit.request = .accepted reply ∧
    visit.sent + wait < deadline ∧ FirstShows network.leeway.reader reply wait head ∧
    head.redirect? visit.request = some next.request ∧ next.request.isOfWeb = true ∧
    next.earlier = visit.earlier + 1 ∧ next.sent = visit.sent + wait

/-- Before the deadline the reply to a request has settled the probe with a result. -/
def Settles (network : Http.Network) (deadline : Nat) (visit : Visit)
    (result : Except ProbeFailure Payload) : Prop :=
  ∃ reply wait, connect network visit.earlier visit.request = .accepted reply ∧
    visit.sent + wait < deadline ∧
    judge network.leeway.reader visit.request (reply.heard wait) (reply.isClosedBy wait) =
      some (.settled result)

/-! ## What a client waits for -/

/-- A redirect is told first when its head shows first. -/
theorem firstTold_redirected_iff {reader : Http.Reader} {reply : Http.Reply}
    {request target : Http.Request} {wait : Nat} :
    Http.FirstTold
        (fun wait => judge reader request (reply.heard wait) (reply.isClosedBy wait)) wait
        (.redirected target) ↔
      ∃ head, FirstShows reader reply wait head ∧ head.redirect? request = some target := by
  constructor
  · intro hparts
    obtain ⟨htold, huntold⟩ := hparts
    obtain ⟨head, framing, rest, hshows, hredirect⟩ := judge_eq_redirected_iff.mp htold
    refine ⟨head, ⟨⟨framing, rest, hshows⟩, ?_⟩, hredirect⟩
    intro early hearly head' framing' rest' hshows'
    obtain ⟨later, hlater, -⟩ :=
      Http.heardFrom_of_le reply.closing reply.pieces (Nat.le_of_lt hearly)
    have hsame :
        ShowsHead reader (reply.heard wait) head' framing' (rest' ++ later.flatten) := by
      rw [Http.Reply.heard, hlater]
      exact hshows'.append
    obtain ⟨rfl, -, -⟩ := hshows.unique hsame
    have hearlier : judge reader request (reply.heard early) (reply.isClosedBy early) =
        some (.redirected target) :=
      judge_eq_redirected_iff.mpr ⟨head, framing', rest', hshows', hredirect⟩
    exact Option.some_ne_none _ (hearlier.symm.trans (huntold early hearly))
  · intro hparts
    obtain ⟨head, ⟨⟨framing, rest, hshows⟩, hnot⟩, hredirect⟩ := hparts
    have htold : ∀ closed,
        judge reader request (reply.heard wait) closed = some (.redirected target) :=
      fun _ => judge_eq_redirected_iff.mpr ⟨head, framing, rest, hshows, hredirect⟩
    refine ⟨htold _, ?_⟩
    intro early hearly
    cases hverdict : judge reader request (reply.heard early) (reply.isClosedBy early) with
    | none => exact hverdict
    | some verdict =>
      have hkept := (isSteady_judge reader request).told_of_le (Nat.le_of_lt hearly) hverdict
      obtain rfl := Option.some.inj ((htold _).symm.trans hkept)
      obtain ⟨head', framing', rest', hshows', -⟩ := judge_eq_redirected_iff.mp hverdict
      exact absurd hshows' (hnot early hearly head' framing' rest')

/-- What a client waits for. -/
abbrev told (network : Http.Network) (visit : Visit) : List (List UInt8) → Bool → Option Verdict :=
  judge network.leeway.reader visit.request

/-- A client that is sent elsewhere goes there if a request can be sent there. -/
theorem redirects_iff {reply : Http.Reply}
    (accepted : connect network visit.earlier visit.request = .accepted reply) :
    Redirects network deadline visit next ↔
      reply.await (told network visit) deadline visit.sent =
          some (next.sent, .redirected next.request) ∧
        next.request.isOfWeb = true ∧ next.earlier = visit.earlier + 1 := by
  rw [Http.Reply.await_eq_some_iff (isSteady_judge _ _)]
  simp only [firstTold_redirected_iff]
  constructor
  · intro hparts
    obtain ⟨reply', wait, head, haccepted, hbefore, hshows, hredirect, hweb, hearlier, hsent⟩ :=
      hparts
    obtain rfl := Http.Connection.accepted.inj (accepted.symm.trans haccepted)
    exact ⟨⟨wait, hsent, hbefore, head, hshows, hredirect⟩, hweb, hearlier⟩
  · intro hparts
    obtain ⟨⟨wait, hsent, hbefore, head, hshows, hredirect⟩, hweb, hearlier⟩ := hparts
    exact ⟨reply, wait, head, accepted, hbefore, hshows, hredirect, hweb, hearlier, hsent⟩

/-- A client that learns the result stops. -/
theorem settles_iff {reply : Http.Reply} {result : Except ProbeFailure Payload}
    (accepted : connect network visit.earlier visit.request = .accepted reply) :
    Settles network deadline visit result ↔
      ∃ time, reply.await (told network visit) deadline visit.sent =
        some (time, .settled result) := by
  rw [Http.Reply.exists_await_iff (isSteady_judge _ _)]
  constructor
  · intro hparts
    obtain ⟨reply', wait, haccepted, hbefore, hresult⟩ := hparts
    obtain rfl := Http.Connection.accepted.inj (accepted.symm.trans haccepted)
    exact ⟨wait, hbefore, hresult⟩
  · intro hparts
    obtain ⟨wait, hbefore, hresult⟩ := hparts
    exact ⟨reply, wait, accepted, hbefore, hresult⟩

/-- A request leads to one other at most. -/
theorem Redirects.unique {other : Visit} (h : Redirects network deadline visit next)
    (h' : Redirects network deadline visit other) : next = other := by
  have ⟨reply, _, _, accepted, _⟩ := h
  obtain ⟨hawait, -, hearlier⟩ := (redirects_iff accepted).mp h
  obtain ⟨hawait', -, hearlier'⟩ := (redirects_iff accepted).mp h'
  have hpair := Option.some.inj (hawait.symm.trans hawait')
  obtain ⟨hsent, hverdict⟩ := Prod.mk.inj hpair
  exact Visit.ext (hearlier.trans hearlier'.symm) hsent (Verdict.redirected.inj hverdict)

/-- A request that leads to another settles nothing. -/
theorem Redirects.not_settles {result : Except ProbeFailure Payload}
    (h : Redirects network deadline visit next) : ¬Settles network deadline visit result := by
  intro hsettles
  have ⟨reply, _, _, accepted, _⟩ := h
  obtain ⟨hawait, -⟩ := (redirects_iff accepted).mp h
  obtain ⟨time, hresult⟩ := (settles_iff accepted).mp hsettles
  rw [hawait] at hresult
  simp at hresult

/-- A request settles the probe with one result at most. -/
theorem Settles.unique {result result' : Except ProbeFailure Payload}
    (h : Settles network deadline visit result) (h' : Settles network deadline visit result') :
    result = result' := by
  have ⟨reply, _, accepted, _⟩ := h
  obtain ⟨time, hawait⟩ := (settles_iff accepted).mp h
  obtain ⟨time', hawait'⟩ := (settles_iff accepted).mp h'
  have hpair := Option.some.inj (hawait.symm.trans hawait')
  exact Verdict.settled.inj (Prod.mk.inj hpair).2

/-! ## What a request comes to -/

/-- Before the deadline the reply to a request has led to a place that no request can be sent to. -/
def LeadsAstray (network : Http.Network) (deadline : Nat) (visit : Visit)
    (target : Http.Request) : Prop :=
  target.isOfWeb = false ∧
    ∃ reply time, connect network visit.earlier visit.request = .accepted reply ∧
      reply.await (told network visit) deadline visit.sent = some (time, .redirected target)

/-- What may become of a request until the deadline. -/
inductive Meets (network : Http.Network) (deadline : Nat) (visit : Visit) : Prop
  | refused (h : connect network visit.earlier visit.request = .refused)
  | silent {reply : Http.Reply}
      (accepted : connect network visit.earlier visit.request = .accepted reply)
      (untold : reply.await (told network visit) deadline visit.sent = none)
  | settled {result : Except ProbeFailure Payload} (h : Settles network deadline visit result)
  | astray {target : Http.Request} (h : LeadsAstray network deadline visit target)
  | redirected {next : Visit} (h : Redirects network deadline visit next)

/-- One of these becomes of every request. -/
theorem meets (network : Http.Network) (deadline : Nat) (visit : Visit) :
    Meets network deadline visit := by
  cases hconnect : connect network visit.earlier visit.request with
  | refused => exact .refused hconnect
  | accepted reply =>
    cases hawait : reply.await (told network visit) deadline visit.sent with
    | none => exact .silent hconnect hawait
    | some told =>
      obtain ⟨time, verdict⟩ := told
      cases verdict with
      | settled result => exact .settled ((settles_iff hconnect).mpr ⟨time, hawait⟩)
      | redirected target =>
        cases hweb : target.isOfWeb with
        | false => exact .astray ⟨hweb, reply, time, hconnect, hawait⟩
        | true =>
          have hnext : Redirects network deadline visit ⟨visit.earlier + 1, time, target⟩ :=
            (redirects_iff hconnect).mpr ⟨hawait, hweb, rfl⟩
          exact .redirected hnext

/-- A request on which no connection is made is not sent. -/
theorem send_of_refused (h : connect network visit.earlier visit.request = .refused) :
    send network deadline left visit.earlier visit.sent visit.request =
      ⟨[], some (broken .refused)⟩ := by
  rw [send, h]

/-- A request that nothing is told of has no result. -/
theorem send_of_silent {reply : Http.Reply}
    (accepted : connect network visit.earlier visit.request = .accepted reply)
    (untold : reply.await (told network visit) deadline visit.sent = none) :
    send network deadline left visit.earlier visit.sent visit.request =
      ⟨[visit.request], none⟩ := by
  simp [send, accepted, untold]

/-- A request that settles the probe is the last. -/
theorem send_of_settles {result : Except ProbeFailure Payload}
    (h : Settles network deadline visit result) :
    send network deadline left visit.earlier visit.sent visit.request =
      ⟨[visit.request], some result⟩ := by
  have ⟨reply, _, accepted, _⟩ := h
  obtain ⟨time, hawait⟩ := (settles_iff accepted).mp h
  simp [send, accepted, hawait]

/-- A request that leads to one too many is the last. -/
theorem send_zero_of_redirects (h : Redirects network deadline visit next) :
    send network deadline 0 visit.earlier visit.sent visit.request =
      ⟨[visit.request], some (broken .tooManyRedirects)⟩ := by
  have ⟨reply, _, _, accepted, _⟩ := h
  obtain ⟨hawait, -⟩ := (redirects_iff accepted).mp h
  simp [send, accepted, hawait]

/-- A request that leads to another is followed by it. -/
theorem send_succ_of_redirects (h : Redirects network deadline visit next) :
    send network deadline (left + 1) visit.earlier visit.sent visit.request =
      ⟨visit.request :: (send network deadline left next.earlier next.sent next.request).requests,
        (send network deadline left next.earlier next.sent next.request).result⟩ := by
  have ⟨reply, _, _, accepted, _⟩ := h
  obtain ⟨hawait, hweb, hearlier⟩ := (redirects_iff accepted).mp h
  rw [send, accepted]
  simp only [hawait]
  rw [if_pos hweb, hearlier]

/-- A fault of a probe itself: a connection that is refused, a redirect too many, or one to a place
that no request can be sent to. -/
inductive IsOwnFault : TransportFault → Prop
  | refused : IsOwnFault .refused
  | tooManyRedirects : IsOwnFault .tooManyRedirects
  | unsupportedScheme (url : Url) : IsOwnFault (.request (.unsupportedScheme url))

/-- A request that leads to a place that no request can be sent to is the last. -/
theorem LeadsAstray.exists_send_eq {target : Http.Request}
    (h : LeadsAstray network deadline visit target) (left : Nat) :
    ∃ fault, IsOwnFault fault ∧
      send network deadline left visit.earlier visit.sent visit.request =
        ⟨[visit.request], some (broken fault)⟩ := by
  obtain ⟨hweb, reply, time, accepted, hawait⟩ := h
  cases left with
  | zero => exact ⟨.tooManyRedirects, .tooManyRedirects, by simp [send, accepted, hawait]⟩
  | succ left =>
    exact ⟨_, .unsupportedScheme target.url, by simp [send, accepted, hawait, hweb]⟩

/-- A request that leads to a place that no request can be sent to settles nothing itself. -/
theorem LeadsAstray.not_settles {target : Http.Request} {result : Except ProbeFailure Payload}
    (h : LeadsAstray network deadline visit target) : ¬Settles network deadline visit result := by
  obtain ⟨-, reply, time, accepted, hawait⟩ := h
  intro hsettles
  obtain ⟨time', hresult⟩ := (settles_iff accepted).mp hsettles
  rw [hawait] at hresult
  simp at hresult

/-! ## What the requests come to -/

/-- A request on which no connection is made settles nothing itself. -/
theorem not_settles_of_refused {result : Except ProbeFailure Payload}
    (h : connect network visit.earlier visit.request = .refused) :
    ¬Settles network deadline visit result := by
  intro hparts
  obtain ⟨reply, _, accepted, _⟩ := hparts
  rw [h] at accepted
  contradiction

/-- A redirect leads to the request after it. -/
theorem Redirects.earlier_eq (h : Redirects network deadline visit next) :
    next.earlier = visit.earlier + 1 := by
  obtain ⟨_, _, _, _, _, _, _, _, hearlier, _⟩ := h
  exact hearlier

/-- Redirects lead to later requests. -/
theorem earlier_le (h : Relation.ReflTransGen (Redirects network deadline) visit last) :
    visit.earlier ≤ last.earlier := by
  induction h with
  | refl => exact Nat.le_refl _
  | tail _ redirects ih =>
    rw [redirects.earlier_eq]
    exact Nat.le_succ_of_le ih

/-- The requests that one may lead to, itself included, are those that the next one may. -/
theorem reaches_iff_of_redirects (h : Redirects network deadline visit next) :
    Relation.ReflTransGen (Redirects network deadline) visit last ↔
      last = visit ∨ Relation.ReflTransGen (Redirects network deadline) next last := by
  rw [Relation.ReflTransGen.cases_head_iff, eq_comm]
  refine or_congr_right ⟨?_, fun hrest => ⟨next, h, hrest⟩⟩
  intro hparts
  obtain ⟨other, hother, hrest⟩ := hparts
  rwa [h.unique hother]

/-- A request that leads nowhere is the last. -/
theorem eq_of_reaches (h : ∀ next, ¬Redirects network deadline visit next)
    (hreaches : Relation.ReflTransGen (Redirects network deadline) visit last) :
    last = visit := by
  rcases Relation.ReflTransGen.cases_head hreaches with heq | ⟨next, hnext, -⟩
  · exact heq.symm
  · exact absurd hnext (h next)

/-- Of the requests that one leads to, only itself can be meant if it leads nowhere. -/
theorem exists_reached_iff_of_last {P : Visit → Prop}
    (hlast : ∀ next, ¬Redirects network deadline visit next) :
    (∃ last, Relation.ReflTransGen (Redirects network deadline) visit last ∧
      last.earlier ≤ visit.earlier + left ∧ P last) ↔ P visit := by
  constructor
  · intro hparts
    obtain ⟨last, hreaches, -, hP⟩ := hparts
    rwa [← eq_of_reaches hlast hreaches]
  · intro hP
    exact ⟨visit, .refl, Nat.le_add_right _ _, hP⟩

/-- Of the requests that one leads to, it is not meant itself if it leads to another and something
holds that does not hold of it. -/
theorem exists_reached_iff_of_redirects {P : Visit → Prop}
    (h : Redirects network deadline visit next) (hnot : ¬P visit) {bound : Nat} :
    (∃ last, Relation.ReflTransGen (Redirects network deadline) visit last ∧
      last.earlier ≤ bound ∧ P last) ↔
    ∃ last, Relation.ReflTransGen (Redirects network deadline) next last ∧
      last.earlier ≤ bound ∧ P last := by
  constructor
  · intro hparts
    obtain ⟨last, hreaches, hle, hP⟩ := hparts
    rcases (reaches_iff_of_redirects h).mp hreaches with rfl | hrest
    · exact absurd hP hnot
    · exact ⟨last, hrest, hle, hP⟩
  · intro hparts
    obtain ⟨last, hreaches, hle, hP⟩ := hparts
    exact ⟨last, hreaches.head h, hle, hP⟩

/-- No request that another one leads to is as early as that one. -/
theorem not_exists_reached_of_redirects {P : Visit → Prop}
    (h : Redirects network deadline visit next) :
    ¬∃ last, Relation.ReflTransGen (Redirects network deadline) next last ∧
      last.earlier ≤ visit.earlier ∧ P last := by
  intro hparts
  obtain ⟨last, hreaches, hle, -⟩ := hparts
  have hlater := earlier_le hreaches
  rw [h.earlier_eq] at hlater
  omega

/-- The result of a request that leads nowhere is what it is settled with. -/
theorem result_send_of_last {result : Except ProbeFailure Payload}
    (hown : ∀ fault, IsOwnFault fault → result ≠ broken fault)
    (hlast : ∀ next, ¬Redirects network deadline visit next) :
    (send network deadline left visit.earlier visit.sent visit.request).result = some result ↔
      Settles network deadline visit result := by
  cases meets network deadline visit with
  | refused h =>
    rw [send_of_refused h]
    simp [not_settles_of_refused h, (hown _ .refused).symm]
  | silent accepted untold =>
    rw [send_of_silent accepted untold, settles_iff accepted, untold]
    simp
  | settled h =>
    rw [send_of_settles h]
    constructor
    · intro hresult
      rwa [← Option.some.inj hresult]
    · intro h'
      rw [h.unique h']
  | astray h =>
    obtain ⟨fault, hfault, hsend⟩ := h.exists_send_eq left
    rw [hsend]
    simp [h.not_settles, (hown fault hfault).symm]
  | redirected h => exact absurd h (hlast _)

/-- The requests of a probe come to a result, or to none, as the last of them does, unless there is
a redirect too many. -/
theorem result_send_iff {result : Option (Except ProbeFailure Payload)} {ends : Visit → Prop}
    (hmany : result ≠ some (broken .tooManyRedirects))
    (stays : ∀ {visit next}, Redirects network deadline visit next → ¬ends visit)
    (hends : ∀ {left visit}, (∀ next, ¬Redirects network deadline visit next) →
      ((send network deadline left visit.earlier visit.sent visit.request).result = result ↔
        ends visit))
    (visit : Visit) :
    (send network deadline left visit.earlier visit.sent visit.request).result = result ↔
      ∃ last, Relation.ReflTransGen (Redirects network deadline) visit last ∧
        last.earlier ≤ visit.earlier + left ∧ ends last := by
  induction left generalizing visit with
  | zero =>
    by_cases hnext : ∃ next, Redirects network deadline visit next
    · obtain ⟨next, h⟩ := hnext
      rw [send_zero_of_redirects h, exists_reached_iff_of_redirects h (stays h)]
      exact iff_of_false hmany.symm (not_exists_reached_of_redirects h)
    · have hlast := not_exists.mp hnext
      rw [hends hlast, exists_reached_iff_of_last hlast]
  | succ left ih =>
    by_cases hnext : ∃ next, Redirects network deadline visit next
    · obtain ⟨next, h⟩ := hnext
      rw [send_succ_of_redirects h, ih, h.earlier_eq, exists_reached_iff_of_redirects h (stays h),
        Nat.add_right_comm, Nat.add_assoc]
    · have hlast := not_exists.mp hnext
      rw [hends hlast, exists_reached_iff_of_last hlast]

/-- A probe has the result that settles the last of its requests, unless that is a fault of its
own. -/
theorem result_send_eq_some_iff (visit : Visit) {result : Except ProbeFailure Payload}
    (hown : ∀ fault, IsOwnFault fault → result ≠ broken fault) :
    (send network deadline left visit.earlier visit.sent visit.request).result = some result ↔
      ∃ last, Relation.ReflTransGen (Redirects network deadline) visit last ∧
        last.earlier ≤ visit.earlier + left ∧ Settles network deadline last result :=
  result_send_iff (fun h => hown _ .tooManyRedirects (Option.some.inj h)) (fun h => h.not_settles)
    (fun hlast => result_send_of_last hown hlast) visit

/-- The first request is sent if a connection is made for it. -/
theorem head?_requests_send {request : Http.Request} :
    (send network deadline left visit.earlier visit.sent visit.request).requests[0]? =
        some request ↔
      visit.request = request ∧
        ∃ reply, connect network visit.earlier visit.request = .accepted reply := by
  cases meets network deadline visit with
  | refused h =>
    rw [send_of_refused h]
    simp [h]
  | silent accepted untold =>
    rw [send_of_silent accepted untold]
    simp [accepted]
  | settled h =>
    have ⟨reply, _, accepted, _⟩ := h
    rw [send_of_settles h]
    simp [accepted]
  | astray h =>
    have ⟨_, reply, _, accepted, _⟩ := h
    obtain ⟨fault, -, hsend⟩ := h.exists_send_eq left
    rw [hsend]
    simp [accepted]
  | redirected h =>
    have ⟨reply, _, _, accepted, _⟩ := h
    cases left with
    | zero =>
      rw [send_zero_of_redirects h]
      simp [accepted]
    | succ left =>
      rw [send_succ_of_redirects h]
      simp [accepted]

/-- A request that leads nowhere is the only one. -/
theorem requests_send_of_last (hlast : ∀ next, ¬Redirects network deadline visit next)
    (number : Nat) :
    (send network deadline left visit.earlier visit.sent visit.request).requests[number + 1]? =
      none := by
  cases meets network deadline visit with
  | refused h =>
    rw [send_of_refused h]
    rfl
  | silent accepted untold =>
    rw [send_of_silent accepted untold]
    rfl
  | settled h =>
    rw [send_of_settles h]
    rfl
  | astray h =>
    obtain ⟨fault, -, hsend⟩ := h.exists_send_eq left
    rw [hsend]
    rfl
  | redirected h => exact absurd h (hlast _)

/-- The requests that are sent are those that redirects lead to, one after the other, as far as
connections are made and as many are allowed. -/
theorem getElem?_requests_send (visit : Visit) {number : Nat} {request : Http.Request} :
    (send network deadline left visit.earlier visit.sent visit.request).requests[number]? =
        some request ↔
      number ≤ left ∧ ∃ last reply,
        Relation.ReflTransGen (Redirects network deadline) visit last ∧
        last.earlier = visit.earlier + number ∧ last.request = request ∧
        connect network last.earlier last.request = .accepted reply := by
  induction number generalizing visit left with
  | zero =>
    rw [head?_requests_send]
    constructor
    · intro hparts
      obtain ⟨hrequest, reply, accepted⟩ := hparts
      exact ⟨Nat.zero_le _, visit, reply, .refl, rfl, hrequest, accepted⟩
    · intro hparts
      obtain ⟨-, last, reply, hreaches, hearlier, hrequest, accepted⟩ := hparts
      rcases Relation.ReflTransGen.cases_head hreaches with rfl | ⟨next, hnext, hrest⟩
      · exact ⟨hrequest, reply, accepted⟩
      · have hlater := earlier_le hrest
        rw [hnext.earlier_eq] at hlater
        omega
  | succ number ih =>
    by_cases hnext : ∃ next, Redirects network deadline visit next
    · obtain ⟨next, h⟩ := hnext
      cases left with
      | zero =>
        rw [send_zero_of_redirects h]
        simp
      | succ left =>
        rw [send_succ_of_redirects h, List.getElem?_cons_succ, ih, h.earlier_eq]
        constructor
        · intro hparts
          obtain ⟨hle, last, reply, hreaches, hearlier, hrequest, accepted⟩ := hparts
          exact ⟨by omega, last, reply, hreaches.head h, by omega, hrequest, accepted⟩
        · intro hparts
          obtain ⟨hle, last, reply, hreaches, hearlier, hrequest, accepted⟩ := hparts
          rcases (reaches_iff_of_redirects h).mp hreaches with rfl | hrest
          · omega
          · exact ⟨by omega, last, reply, hrest, by omega, hrequest, accepted⟩
    · have hlast : ∀ next, ¬Redirects network deadline visit next :=
        fun next h => hnext ⟨next, h⟩
      rw [requests_send_of_last hlast]
      constructor
      · intro h
        contradiction
      · intro hparts
        obtain ⟨-, last, reply, hreaches, hearlier, -⟩ := hparts
        rw [eq_of_reaches hlast hreaches] at hearlier
        omega

end HealthPanel.Probe
