import HealthPanel.Proofs.Config.Derived
import HealthPanel.Proofs.Http.Redirects
import HealthPanel.Proofs.SingleRequest

/-!
# Where the credentials of a probe go

The user name and the password in a base URL are sent to its host and port, in a header of their
own, and nowhere else. A redirect to another place drops them, and they do not come back. Nothing
else that a probe sends depends on them.
-/

namespace HealthPanel

namespace Probe

variable {probe other : Probe} {network : Http.Network} {number : Nat}
  {request next counterpart : Http.Request} {base : Url} {value : String}

/-! ## One request after another -/

/-- A reply shows one head first, at one time. -/
theorem FirstShows.unique {reader : Http.Reader} {reply : Http.Reply} {wait wait' : Nat}
    {head head' : Http.Head} (h : FirstShows reader reply wait head)
    (h' : FirstShows reader reply wait' head') : head = head' := by
  obtain ⟨⟨framing, rest, hshows⟩, hnot⟩ := h
  obtain ⟨⟨framing', rest', hshows'⟩, hnot'⟩ := h'
  rcases Nat.lt_trichotomy wait wait' with hlt | rfl | hgt
  · exact absurd hshows (hnot' wait hlt head framing rest)
  · exact (hshows.unique hshows').1
  · exact absurd hshows' (hnot wait' hgt head' framing' rest')

/-- The first request that is sent is that of the probe. -/
theorem request_of_getElem?_zero (h : (probe.requests network)[0]? = some request) :
    probe.request = .ok request := by
  obtain ⟨first, last, -, hfirst, -, hreaches, hearlier, rfl, -⟩ :=
    getElem?_requests_eq_some_iff.mp h
  rcases Relation.ReflTransGen.cases_head hreaches with rfl | ⟨second, hsecond, hrest⟩
  · exact hfirst
  · have hlater := earlier_le hrest
    rw [hsecond.earlier_eq] at hlater
    omega

/-- Every later request is one that the reply to the request before it led to. -/
theorem exists_redirect_of_getElem?_succ
    (h : (probe.requests network)[number + 1]? = some next) :
    ∃ previous reply wait head, (probe.requests network)[number]? = some previous ∧
      connect network number previous = .accepted reply ∧
      FirstShows network.leeway.reader reply wait head ∧
      head.redirect? previous = some next := by
  obtain ⟨first, last, -, hfirst, hle, hreaches, hearlier, rfl, -⟩ :=
    getElem?_requests_eq_some_iff.mp h
  rcases Relation.ReflTransGen.cases_tail hreaches with rfl | ⟨before, hbefore, hlast⟩
  · simp at hearlier
  · obtain rfl : before.earlier = number := by
      have hnext := hlast.earlier_eq
      omega
    obtain ⟨reply, wait, head, accepted, -, hshows, hredirect, -⟩ := hlast
    refine ⟨before.request, reply, wait, head, ?_, accepted, hshows, hredirect⟩
    exact getElem?_requests_eq_some_iff.mpr
      ⟨first, before, reply, hfirst, by omega, hbefore, rfl, rfl, accepted⟩

/-! ## The header of the credentials -/

/-- Of the requests up to one of them, some went to another host or port than that of a URL. -/
def Strays (requests : List Http.Request) (base : Url) (number : Nat) : Prop :=
  ∃ earlier sent, earlier ≤ number ∧ requests[earlier]? = some sent ∧ ¬sent.url.SamePlace base

/-- A request has strayed if it goes elsewhere itself, or if the one before has. -/
theorem strays_succ_iff {requests : List Http.Request} (h : requests[number + 1]? = some next) :
    Strays requests base (number + 1) ↔
      Strays requests base number ∨ ¬next.url.SamePlace base := by
  constructor
  · rintro ⟨earlier, sent, hle, hsent, helsewhere⟩
    rcases Nat.le_succ_iff.mp hle with hle | rfl
    · exact .inl ⟨earlier, sent, hle, hsent, helsewhere⟩
    · obtain rfl := Option.some.inj (h.symm.trans hsent)
      exact .inr helsewhere
  · rintro (⟨earlier, sent, hle, hsent, helsewhere⟩ | helsewhere)
    · exact ⟨earlier, sent, Nat.le_succ_of_le hle, hsent, helsewhere⟩
    · exact ⟨number + 1, next, Nat.le_refl _, h, helsewhere⟩

/-- The credentials are sent as long as all requests go to the place of the first, and not again
after one has gone elsewhere. -/
theorem authorization_of_getElem? {credentials : Option Http.Credentials}
    (first : ∀ request, probe.request = .ok request →
      request.url.SamePlace base ∧ request.authorization = credentials)
    (h : (probe.requests network)[number]? = some request) :
    (Strays (probe.requests network) base number → request.authorization = none) ∧
      (¬Strays (probe.requests network) base number → request.authorization = credentials) := by
  induction number generalizing request with
  | zero =>
    obtain ⟨hplace, hcredentials⟩ := first request (request_of_getElem?_zero h)
    refine ⟨?_, fun _ => hcredentials⟩
    rintro ⟨earlier, sent, hle, hsent, helsewhere⟩
    obtain rfl : earlier = 0 := by omega
    obtain rfl := Option.some.inj (h.symm.trans hsent)
    exact absurd hplace helsewhere
  | succ number ih =>
    obtain ⟨previous, -, -, head, hprevious, -, -, hredirect⟩ := exists_redirect_of_getElem?_succ h
    obtain ⟨hstrayed, hstayed⟩ := ih hprevious
    obtain ⟨-, url, -, rfl⟩ := Http.Head.redirect?_eq_some_iff.mp hredirect
    rw [strays_succ_iff h]
    by_cases hstrays : Strays (probe.requests network) base number
    · refine ⟨fun _ => ?_, fun hnot => absurd (.inl hstrays) hnot⟩
      simp [Http.Request.redirectTo, hstrayed hstrays]
    · -- So far all requests went to the place of the URL, the one before this one too.
      have hbefore : previous.url.SamePlace base := by
        by_contra helsewhere
        exact hstrays ⟨number, previous, Nat.le_refl _, hprevious, helsewhere⟩
      have hsame : Http.isSameHost url previous.url = true ↔ url.SamePlace base := by
        rw [Url.isSameHost_iff, Url.SamePlace, Url.SamePlace, hbefore.1, hbefore.2]
      by_cases hplace : url.SamePlace base
      · refine ⟨fun h => absurd h ?_, fun _ => ?_⟩
        · exact not_or.mpr ⟨hstrays, not_not_intro hplace⟩
        · simp [Http.Request.redirectTo, hsame.mpr hplace, hstayed hstrays]
      · refine ⟨fun _ => ?_, fun h => absurd (.inr hplace) h⟩
        simp [Http.Request.redirectTo, mt hsame.mp hplace]

/-- The header of the credentials is sent exactly if there are credentials and no request went
elsewhere. -/
theorem mem_headers_authorization_iff {credentials : Option Http.Credentials}
    (first : ∀ request, probe.request = .ok request →
      request.url.SamePlace base ∧ request.authorization = credentials)
    (h : (probe.requests network)[number]? = some request) :
    ("authorization", value) ∈ request.headers ↔
      ¬Strays (probe.requests network) base number ∧
        ∃ sent, credentials = some sent ∧ sent.header = value := by
  obtain ⟨hstrayed, hstayed⟩ := authorization_of_getElem? first h
  rw [Http.Request.mem_headers_authorization]
  constructor
  · rintro ⟨sent, hsent, hvalue⟩
    have hstays : ¬Strays (probe.requests network) base number := by
      intro hstrays
      rw [hstrayed hstrays] at hsent
      cases hsent
    exact ⟨hstays, sent, (hstayed hstays).symm.trans hsent, hvalue⟩
  · rintro ⟨hstays, sent, hsent, hvalue⟩
    exact ⟨sent, (hstayed hstays).trans hsent, hvalue⟩

/-! ## All that is sent besides -/

/-- Every request that tells where it comes from tells it as a URL without user name and
password. -/
theorem exists_of_referer (first : ∀ request, probe.request = .ok request → request.referer = none)
    (h : (probe.requests network)[number]? = some request) (hvalue : request.referer = some value) :
    ∃ url : Url, url.username = "" ∧ url.password = none ∧ value = url.render := by
  induction number generalizing request value with
  | zero =>
    rw [first request (request_of_getElem?_zero h)] at hvalue
    cases hvalue
  | succ number ih =>
    obtain ⟨previous, -, -, head, hprevious, -, -, hredirect⟩ := exists_redirect_of_getElem?_succ h
    obtain ⟨-, url, -, rfl⟩ := Http.Head.redirect?_eq_some_iff.mp hredirect
    exact Http.Request.exists_of_referer_redirectTo (fun value => ih hprevious) hvalue

/-- A network that answers with the same chain of connections, whatever is asked. -/
def chained (chain : Nat → Http.Connection) (leeway : Http.Leeway) : Http.Network :=
  ⟨fun earlier _ => chain earlier, leeway⟩

/-- Two probes whose first requests are alike send requests that are alike, as long as they get the
same replies. -/
theorem alike_of_getElem? {chain : Nat → Http.Connection} {leeway : Http.Leeway}
    (first : ∀ request counterpart, probe.request = .ok request →
      other.request = .ok counterpart → request.Alike counterpart)
    (h : (probe.requests (chained chain leeway))[number]? = some request)
    (h' : (other.requests (chained chain leeway))[number]? = some counterpart) :
    request.Alike counterpart := by
  have reply_eq {request : Http.Request} {number : Nat} {reply : Http.Reply}
      (h : connect (chained chain leeway) number request = .accepted reply) :
      chain number = .accepted reply := by
    unfold connect at h
    split at h
    case isTrue => exact h
    case isFalse => cases h
  induction number generalizing request counterpart with
  | zero => exact first _ _ (request_of_getElem?_zero h) (request_of_getElem?_zero h')
  | succ number ih =>
    obtain ⟨previous, reply, wait, head, hprevious, accepted, hshows, hredirect⟩ :=
      exists_redirect_of_getElem?_succ h
    obtain ⟨previous', reply', wait', head', hprevious', accepted', hshows', hredirect'⟩ :=
      exists_redirect_of_getElem?_succ h'
    obtain rfl : reply = reply' :=
      Http.Connection.accepted.inj ((reply_eq accepted).symm.trans (reply_eq accepted'))
    obtain rfl := hshows.unique hshows'
    exact (ih hprevious hprevious').redirect hredirect hredirect'

end Probe

/-! ## Probes of valid endpoints -/

namespace Http

/-- Taking the credentials out of a URL changes nothing but the credentials. -/
theorem withoutCredentials_bare (url : Url) :
    (bare url).withoutCredentials = url.withoutCredentials := by
  unfold bare
  split <;> rfl

/-- URLs on the same server, for the same user, hold the same credentials. -/
theorem credentialsOf?_of_sameServer {url base : Url} (h : url.SameServer base) :
    credentialsOf? url = credentialsOf? base := by
  simp only [credentialsOf?, h.host, h.username, h.password]

/-- URLs on the same server are at the same place, also as they stand in requests. -/
theorem samePlace_bare {url base : Url} (h : url.SameServer base) : (bare url).SamePlace base := by
  obtain ⟨hscheme, hhost, hport, -⟩ := bare_eq url
  refine ⟨hhost.trans h.host, ?_⟩
  rw [Url.effectivePort?, Url.effectivePort?, hscheme, hport, h.scheme, h.port]

end Http

namespace Probe

variable {probe other : Probe} {request : Http.Request}

/-- The URL of the health of a valid endpoint is on the server of its base URL. -/
theorem exists_base_of_validate (valid : probe.endpoint.validate = .ok ()) :
    ∃ base, Url.ofString probe.endpoint.baseUrl = .ok base ∧
      ∀ url, Url.ofString probe.endpoint.healthUrl = .ok url →
        url.SameServer base ∧ url.scheme ∈ Http.Request.schemes := by
  obtain ⟨base, hbase, web, -, hurls⟩ :=
    Endpoint.derived_of_validate valid (by decide : Url.IsName "health".toList)
  refine ⟨base, hbase, fun url hurl => ?_⟩
  have hserver : url.SameServer base := (hurls url hurl).1
  exact ⟨hserver, hserver.scheme ▸ web⟩

/-- The first request is for the URL of the health, its credentials apart. -/
theorem eq_of_request (web : ∀ url, Url.ofString probe.endpoint.healthUrl = .ok url →
      url.scheme ∈ Http.Request.schemes) (h : probe.request = .ok request) :
    ∃ url, Url.ofString probe.endpoint.healthUrl = .ok url ∧
      request = ⟨Http.bare url, probe.client.userAgent, Http.credentialsOf? url, none⟩ := by
  obtain ⟨url, hurl, -, hrequest⟩ := (Http.Request.ofString_eq_ok_iff web).mp h
  exact ⟨url, hurl, hrequest.symm⟩

/-- The first requests for two URLs that differ in user name and password only are alike. -/
theorem alike_of_request {endpoint : Endpoint} {url url' : Url} {counterpart : Http.Request}
    (hurl : Url.ofString probe.endpoint.healthUrl = .ok url)
    (hurl' : Url.ofString endpoint.healthUrl = .ok url')
    (same : url.withoutCredentials = url'.withoutCredentials)
    (web : url.scheme ∈ Http.Request.schemes) (h : probe.request = .ok request)
    (h' : Probe.request { probe with endpoint } = .ok counterpart) :
    request.Alike counterpart := by
  have hweb : ∀ read, Url.ofString probe.endpoint.healthUrl = .ok read →
      read.scheme ∈ Http.Request.schemes := by
    intro read hread
    obtain rfl := Except.ok.inj (hurl.symm.trans hread)
    exact web
  have hweb' : ∀ read, Url.ofString endpoint.healthUrl = .ok read →
      read.scheme ∈ Http.Request.schemes := by
    intro read hread
    obtain rfl := Except.ok.inj (hurl'.symm.trans hread)
    exact (Url.parts_of_withoutCredentials same).1 ▸ web
  obtain ⟨read, hread, rfl⟩ := eq_of_request hweb h
  obtain ⟨read', hread', rfl⟩ := @eq_of_request { probe with endpoint } counterpart hweb' h'
  obtain rfl := Except.ok.inj (hurl.symm.trans hread)
  obtain rfl := Except.ok.inj (hurl'.symm.trans hread')
  refine ⟨?_, rfl, rfl⟩
  rw [Http.withoutCredentials_bare, Http.withoutCredentials_bare, same]

/-- Where the user name and the password of a valid base URL go, whatever a backend answers. A
request carries them exactly if all requests so far, itself included, went to the host and the port
of the base URL. What it tells of the place that it comes from is a URL without user name and
password. And the requests for a URL that differs in user name and password only, in the same chain
of replies, are the same in all but the one header, target and place included. -/
theorem credentials_stay (probe : Probe) (valid : probe.endpoint.validate = .ok ()) :
    ∃ base, Url.ofString probe.endpoint.baseUrl = .ok base ∧
      (∀ (network : Http.Network) (number : Nat) (request : Http.Request),
        (probe.requests network)[number]? = some request →
        (∀ value, ("authorization", value) ∈ request.headers ↔
          (¬∃ (earlier : Nat) (sent : Http.Request), earlier ≤ number ∧
            (probe.requests network)[earlier]? = some sent ∧
            ¬(sent.url.host = base.host ∧ sent.url.effectivePort? = base.effectivePort?)) ∧
          ∃ credentials, Http.credentialsOf? base = some credentials ∧
            credentials.header = value) ∧
        ∀ value, ("referer", value) ∈ request.headers →
          ∃ url : Url, url.username = "" ∧ url.password = none ∧ value = url.render) ∧
      ∀ (endpoint : Endpoint) (url url' : Url), Url.ofString probe.endpoint.healthUrl = .ok url →
        Url.ofString endpoint.healthUrl = .ok url' →
        url.withoutCredentials = url'.withoutCredentials →
        ∀ (chain : Nat → Http.Connection) (leeway : Http.Leeway) (number : Nat)
          (request counterpart : Http.Request),
          (probe.requests (chained chain leeway))[number]? = some request →
          (requests { probe with endpoint } (chained chain leeway))[number]? = some counterpart →
          request.target = counterpart.target ∧
          request.headers.filter (·.1 ≠ "authorization") =
            counterpart.headers.filter (·.1 ≠ "authorization") := by
  obtain ⟨base, hbase, hurls⟩ := exists_base_of_validate valid
  have hfirst : ∀ request, probe.request = .ok request →
      ∃ url, Url.ofString probe.endpoint.healthUrl = .ok url ∧
        request = ⟨Http.bare url, probe.client.userAgent, Http.credentialsOf? url, none⟩ :=
    fun request h => eq_of_request (fun url hurl => (hurls url hurl).2) h
  refine ⟨base, hbase, ?_, ?_⟩
  · intro network number request hrequest
    have hplace : ∀ request, probe.request = .ok request →
        request.url.SamePlace base ∧ request.authorization = Http.credentialsOf? base := by
      intro request h
      obtain ⟨url, hurl, rfl⟩ := hfirst request h
      obtain ⟨hserver, -⟩ := hurls url hurl
      exact ⟨Http.samePlace_bare hserver, Http.credentialsOf?_of_sameServer hserver⟩
    refine ⟨fun value => mem_headers_authorization_iff hplace hrequest, fun value hvalue => ?_⟩
    refine exists_of_referer (fun request h => ?_) hrequest
      (Http.Request.mem_headers_referer.mp hvalue)
    obtain ⟨url, -, rfl⟩ := hfirst request h
    rfl
  · intro endpoint url url' hurl hurl' hsame chain leeway number request counterpart hrequest
      hcounterpart
    have halike : request.Alike counterpart :=
      alike_of_getElem? (fun first second => alike_of_request hurl hurl' hsame (hurls url hurl).2)
        hrequest hcounterpart
    exact ⟨halike.target_eq, halike.headers_eq⟩

/-- A backend that sends its clients to another port, and from there back. -/
def detour : List Http.Connection :=
  [.accepted (plainReply ["HTTP/1.1 302 Found", "Location: //[::1]:81/detour"] ""),
    .accepted (plainReply ["HTTP/1.1 302 Found", "Location: http://[::1]/back"] ""),
    .accepted (plainReply ["HTTP/1.1 200 OK"] "\x7b\x7d")]

/-- The probe of a backend on this machine that knows its users. -/
def userLoopback : Probe := .ofConfig ⟨"http://user:word@[::1]"⟩ .default

/-- After a detour to another port the credentials are not sent again, and where there are none the
same place is asked. -/
theorem credentials_stay_detour :
    let network := chained (detour.getD · .refused) .default
    userLoopback.endpoint.validate = .ok () ∧
      ∃ first second third other : Http.Request,
        userLoopback.requests network = [first, second, third] ∧
        third.url.host = first.url.host ∧
        third.url.effectivePort? = first.url.effectivePort? ∧
        ("authorization", "Basic dXNlcjp3b3Jk") ∈ first.headers ∧
        (∀ value, ("authorization", value) ∉ second.headers) ∧
        (∀ value, ("authorization", value) ∉ third.headers) ∧
        (loopback.requests network)[2]? = some other ∧ third.target = other.target := by
  intro network
  have hvalid : userLoopback.endpoint.validate = .ok () := by decide +kernel
  obtain ⟨base, hbase, hheaders, hsame⟩ := credentials_stay userLoopback hvalid
  have hread : Url.ofString userLoopback.endpoint.baseUrl = .ok ⟨"http", "user", some "word",
      loopbackRequest.url.host, none, .segments [""], none, none⟩ := by decide +kernel
  obtain rfl := Except.ok.inj (hread.symm.trans hbase)
  have hlength : (userLoopback.requests network).length = 3 := by decide +kernel
  obtain ⟨first, second, third, hrequests⟩ := List.length_eq_three.mp hlength
  have hplaces : (userLoopback.requests network).map
      (fun sent => (sent.url.host, sent.url.effectivePort?)) =
        [(loopbackRequest.url.host, some 80), (loopbackRequest.url.host, some 81),
          (loopbackRequest.url.host, some 80)] := by decide +kernel
  have hthird : (userLoopback.requests network)[2]? = some third := by rw [hrequests]; rfl
  have hother : ((loopback.requests network)[2]?).isSome = true := by decide +kernel
  obtain ⟨other, hother⟩ := Option.isSome_iff_exists.mp hother
  simp only [hrequests, List.map_cons, List.map_nil, List.cons.injEq, Prod.mk.injEq] at hplaces
  obtain ⟨⟨hhost, hport⟩, ⟨-, helsewhere⟩, ⟨hhostBack, hportBack⟩, -⟩ := hplaces
  -- The second request goes to another port, so that neither it nor the third has the header.
  have hleft (number : Nat) (sent : Http.Request) (hle : 1 ≤ number)
      (hsent : (userLoopback.requests network)[number]? = some sent) (value : String) :
      ("authorization", value) ∉ sent.headers := by
    intro hmem
    refine (((hheaders network number sent hsent).1 value).mp hmem).1
      ⟨1, second, hle, by rw [hrequests]; rfl, fun hplace => ?_⟩
    exact absurd (helsewhere.symm.trans hplace.2) (by decide)
  refine ⟨hvalid, first, second, third, other, hrequests, hhostBack.trans hhost.symm,
    hportBack.trans hport.symm, ?_, hleft 1 second (by decide) (by rw [hrequests]; rfl),
    hleft 2 third (by decide) hthird, hother, ?_⟩
  · refine ((hheaders network 0 first (by rw [hrequests]; rfl)).1 _).mpr
      ⟨?_, ⟨"user", some "word"⟩, by decide +kernel, by decide +kernel⟩
    rintro ⟨earlier, sent, hle, hsent, helsewhere⟩
    obtain rfl : earlier = 0 := by omega
    rw [hrequests] at hsent
    obtain rfl := Option.some.inj hsent
    exact helsewhere ⟨hhost, hport.trans (by decide)⟩
  · have hurl : Url.ofString userLoopback.endpoint.healthUrl = .ok ⟨"http", "user", some "word",
        loopbackRequest.url.host, none, .segments ["health"], none, none⟩ := by decide +kernel
    have hurl' : Url.ofString loopback.endpoint.healthUrl = .ok loopbackRequest.url := by
      decide +kernel
    exact (hsame loopback.endpoint _ _ hurl hurl' (by decide) (detour.getD · .refused) .default 2
      third other hthird hother).1

end Probe

end HealthPanel
