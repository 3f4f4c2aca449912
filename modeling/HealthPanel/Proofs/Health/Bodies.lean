import HealthPanel.Proofs.Health.Delivery
import HealthPanel.Proofs.Http.Bodies
import HealthPanel.Proofs.Http.Heads
import HealthPanel.Proofs.Http.Takes
import HealthPanel.Proofs.Json.Cut
import HealthPanel.Proofs.SingleRequest

/-!
# Whole bodies and bodies that are cut short

A whole body shows the same however its end is told: by its length, by the last chunk, or by the
end of the connection. A body that is cut short shows an unreachable backend. Where the end has
been told in another way the cut is found out by the framing, whatever the bytes before it are; and
where only the connection tells the end, it is found out by the reader of the document.
-/

namespace HealthPanel

open Http (Delivery Framing Response StatusCode)

variable {body rest : List UInt8} {received : List (List UInt8)} {reader : Http.Reader}
  {closed : Bool} {head : Http.Head} {delivery : Delivery} {framing : Framing}
  {response : Response} {probe : Probe} {network : Http.Network}

/-! ## Deliveries -/

/-- A delivery brings a whole body, and if it leaves the end to the connection, the connection is
closed behind it. -/
inductive Http.Delivery.BringsAll (body : List UInt8) (closed : Bool) : Delivery → Prop
  | counted : BringsAll body closed (.counted body.length)
  | chunked {size : Nat} (positive : 1 ≤ size) : BringsAll body closed (.chunked size true)
  | untilClosed (ended : closed = true) : BringsAll body closed .untilClosed

/-- A delivery brings less than it announces: fewer bytes than the length that it tells, or no
last chunk. -/
inductive Http.Delivery.FallsShort (body : List UInt8) : Delivery → Prop
  | counted {n : Nat} (short : body.length < n) : FallsShort body (.counted n)
  | chunked {size : Nat} (positive : 1 ≤ size) : FallsShort body (.chunked size false)

/-- What a whole body is read as in the framing that is announced. -/
theorem Http.Delivery.BringsAll.exists_framing (h : delivery.BringsAll body closed)
    (fits : body.length ≤ Http.maxLength) :
    ∃ framing, delivery.framing? = some framing ∧
      framing.read closed (Response.writeBody delivery body) = .done body [] := by
  cases h with
  | counted => exact ⟨.length body.length, if_pos fits, Http.read_length body closed⟩
  | chunked positive =>
    have hsize : body.length < UInt64.size := fits.trans_lt (by decide)
    exact ⟨.chunked, rfl, Http.read_chunked (Nat.ne_zero_of_lt positive) hsize closed⟩
  | untilClosed ended =>
    subst ended
    exact ⟨.untilClosed, rfl, Http.read_untilClosed body⟩

/-- Less than what is announced is refused, unless the announcement is. -/
theorem Http.Delivery.FallsShort.read_of_framing (h : delivery.FallsShort body)
    (fits : body.length ≤ Http.maxLength) (announced : delivery.framing? = some framing) :
    framing.read true (Response.writeBody delivery body) = .bad := by
  cases h with
  | counted short =>
    obtain ⟨-, hsame⟩ := Option.ite_none_right_eq_some.mp announced
    obtain rfl := Option.some.inj hsame
    exact Http.read_length_of_lt short
  | chunked positive =>
    obtain rfl := Option.some.inj announced
    have hsize : body.length < UInt64.size := fits.trans_lt (by decide)
    exact Http.read_chunked_of_incomplete (Nat.ne_zero_of_lt positive) hsize

/-! ## Responses -/

/-- A success that may have a body. -/
def Http.Response.IsSuccessWithBody (response : Response) : Prop :=
  200 ≤ response.status ∧ response.status ≤ 299 ∧ response.status ≠ 204

/-- The code of a success. -/
def Http.Response.IsSuccessWithBody.code (success : response.IsSuccessWithBody) : StatusCode :=
  ⟨response.status, by have := success.1; have := success.2.1; omega⟩

/-- The head of a success is read off its bytes. -/
theorem Http.Response.IsWellFormed.readOne_of_success (h : response.IsWellFormed)
    (success : response.IsSuccessWithBody) (rest : List UInt8) :
    Http.Head.readOne (response.writeHead ++ rest) =
      .done (response.headAsRead success.code) rest :=
  h.readOne_writeHead success.code.three_digits rest

/-- The head of a success announces no other one. -/
theorem Http.Response.IsSuccessWithBody.isInterim_eq (success : response.IsSuccessWithBody) :
    (response.headAsRead success.code).isInterim = false := by
  have hlow : ¬success.code.number < 200 := Nat.not_lt.mpr success.1
  simp [Http.Head.isInterim, Http.Response.headAsRead, hlow]

/-- The head of a success tells the framing that its delivery announces. -/
theorem Http.Response.IsWellFormed.framing?_of_success (h : response.IsWellFormed)
    (success : response.IsSuccessWithBody) :
    (response.headAsRead success.code).framing? = response.delivery.framing? := by
  obtain ⟨hlow, hhigh, hbody⟩ := success
  refine h.framing?_eq ?_
  simp only [Http.Response.IsSuccessWithBody.code, List.mem_cons, List.not_mem_nil, or_false]
  omega

/-- A client that takes in a success reads its head, or none. -/
theorem Http.Response.IsWellFormed.read_of_success (h : response.IsWellFormed)
    (success : response.IsSuccessWithBody) (reader : Http.Reader)
    (all : received.flatten = response.toBytes) :
    Http.Head.read reader received = .more ∨ Http.Head.read reader received = .bad ∨
      Http.Head.read reader received = .done (response.headAsRead success.code)
        (Response.writeBody response.delivery response.body) := by
  refine Http.Head.readTakes_of_final reader.isPatient ?_ success.isInterim_eq
  rw [List.nil_append, reader.flatten_flatMap_takes, all]
  exact h.readOne_of_success success _

/-- A client that takes in a success reads its head, if a length that it tells fits 64 bits. -/
theorem Http.Response.IsWellFormed.read_of_small (h : response.IsWellFormed)
    (success : response.IsSuccessWithBody) (reader : Http.Reader)
    (small : ∀ n, response.delivery = .counted n → n < UInt64.size)
    (all : received.flatten = response.toBytes) :
    Http.Head.read reader received = .done (response.headAsRead success.code)
      (Response.writeBody response.delivery response.body) := by
  have hwhole := h.readOne_of_success success []
  rw [List.append_nil] at hwhole
  have hends := response.exists_writeHead_eq
  have hsome : 0 < response.writeHead.length := by
    obtain ⟨front, hfront⟩ := hends
    simp [hfront]
  have htaken : [] ++ (received.flatMap reader.takes).flatten =
      response.writeHead ++ Response.writeBody response.delivery response.body := by
    rw [List.nil_append, reader.flatten_flatMap_takes, all, Response.toBytes]
  exact Http.Head.readTakes_of_fits reader.isPatient hwhole success.isInterim_eq hends
    (h.length_writeHead_le small) hsome htaken

/-! ## What a body shows -/

/-- The state that the whole body of a success shows. -/
def Status.ofBody (body : List UInt8) : Status :=
  match Payload.ofBytes body with
  | .ok payload => .connected payload
  | .error _ => .unreachable

namespace Probe

/-- A check that has received a whole success shows its body. -/
theorem Delivers.check_of_bringsAll (h : probe.Delivers network response.toBytes closed)
    (wellFormed : response.IsWellFormed) (success : response.IsSuccessWithBody)
    (fits : response.body.length ≤ Http.maxLength)
    (whole : response.delivery.BringsAll response.body closed) :
    probe.check network = .ofBody response.body := by
  obtain ⟨received, takesIn, hall⟩ := h
  obtain ⟨framing, announced, hread⟩ := whole.exists_framing fits
  have hsmall : ∀ n, response.delivery = .counted n → n < UInt64.size := by
    intro n hcounted
    rw [hcounted] at whole
    cases whole
    exact fits.trans_lt (by decide)
  have shows : ShowsHead network.leeway.reader received _ framing _ :=
    ⟨wellFormed.read_of_small success _ hsmall hall,
      (wellFormed.framing?_of_success success).trans announced⟩
  have hfetch : probe.fetch network = (Payload.ofBytes response.body).mapError .decode := by
    refine takesIn.fetch_of_success shows ⟨success.1, success.2.1⟩ ?_
    rw [judgeBody, hread]
  rw [check, hfetch, Status.ofBody]
  cases Payload.ofBytes response.body with
  | ok payload => rfl
  | error fault => rfl

/-- A check that has received less than was announced shows an unreachable backend. -/
theorem Delivers.check_of_fallsShort (h : probe.Delivers network response.toBytes true)
    (wellFormed : response.IsWellFormed) (success : response.IsSuccessWithBody)
    (fits : response.body.length ≤ Http.maxLength)
    (short : response.delivery.FallsShort response.body) : probe.check network = .unreachable := by
  obtain ⟨received, takesIn, hall⟩ := h
  have hbroken (fault : TransportFault) (notOwn : ¬IsOwnFault fault)
      (told : ∀ request, judge network.leeway.reader request received true =
        some (.settled (broken fault))) : probe.check network = .unreachable := by
    have hfetch : probe.fetch network = broken fault := by
      refine takesIn.fetch_eq told fun other own heq => notOwn ?_
      simp only [broken, Except.error.injEq, Failure.transport.injEq] at heq
      exact heq ▸ own
    rw [check, hfetch]
    rfl
  have hresponse : ¬IsOwnFault .badResponse := by
    intro own
    cases own
  have hbody : ¬IsOwnFault .badBody := by
    intro own
    cases own
  rcases wellFormed.read_of_success success network.leeway.reader hall with hread | hread | hread
  · exact hbroken .badResponse hresponse fun request => by simp [judge, hread]
  · exact hbroken .badResponse hresponse fun request => by simp [judge, hread]
  · have hframed := wellFormed.framing?_of_success success
    cases hframing : response.delivery.framing? with
    | none =>
      -- no body may be as long as that, so the head itself is refused
      rw [hframing] at hframed
      exact hbroken .badResponse hresponse fun request => by simp [judge, hread, hframed]
    | some framing =>
      have hbad := short.read_of_framing fits hframing
      have shows : ShowsHead network.leeway.reader received _ framing _ :=
        ⟨hread, hframed.trans hframing⟩
      refine hbroken .badBody hbody (shows.judge_of_success ⟨success.1, success.2.1⟩ ?_)
      rw [judgeBody, hbad]

/-- The state that a check shows of a success is that of its body alone, if the body is not too long
for its length to be told. It is the same whether the end of the body is told by its length, by the
last chunk, or by the end of the connection, and however small the chunks are: connected with the
payload that the body holds, or unreachable if it holds none. If less has come than was announced
when the connection is closed, the check shows an unreachable backend, even if what has come is a
document. -/
theorem check_of_delivery (response : Response) (wellFormed : response.IsWellFormed)
    (success : response.IsSuccessWithBody) (fits : response.body.length ≤ Http.maxLength) :
    (∀ probe network delivery closed, delivery.BringsAll response.body closed →
      Delivers probe network { response with delivery }.toBytes closed →
      probe.check network = .ofBody response.body) ∧
    ∀ probe network delivery, delivery.FallsShort response.body →
      Delivers probe network { response with delivery }.toBytes true →
      probe.check network = .unreachable := by
  have hformed (delivery : Delivery) : { response with delivery }.IsWellFormed :=
    ⟨wellFormed.reason, wellFormed.fields, wellFormed.unframed, wellFormed.few, wellFormed.names,
      wellFormed.fits⟩
  refine ⟨?_, ?_⟩
  · intro probe network delivery closed whole delivers
    exact delivers.check_of_bringsAll (hformed delivery) success fits whole
  · intro probe network delivery cut delivers
    exact delivers.check_of_fallsShort (hformed delivery) success fits cut

/-- The first request of the probe of this machine gets a whole reply at once. -/
theorem delivers_loopback (bytes : List UInt8) :
    loopback.Delivers (.ofConnections [.accepted (.complete bytes)]) bytes true := by
  refine ⟨_, ⟨loopbackRequest, ⟨0, 0, loopbackRequest⟩, .complete bytes, 0, request_loopback, .refl,
    Nat.zero_le _, rfl, deadline_loopback_pos _, rfl, rfl⟩, ?_⟩
  rw [Http.Reply.heard, Http.Reply.complete, Http.heardFrom, if_pos (Nat.le_refl 0),
    Http.heardFrom, List.flatten_singleton]

/-- The name of a city with a letter of two bytes. -/
def cityResponse : Response where
  status := 200
  reason := "OK"
  fields := [("Content-Type", "application/json")]
  delivery := .untilClosed
  body := Utf8.encode "\x7b\"city\":\"Zürich\"\x7d"

/-- In chunks of one byte the name of the city arrives, and without the last chunk it does not. -/
theorem check_of_delivery_city :
    loopback.check (.ofConnections [.accepted (.complete
        { cityResponse with delivery := .chunked 1 true }.toBytes)]) =
      .connected ⟨.object [("city", .text "Zürich")]⟩ ∧
    loopback.check (.ofConnections [.accepted (.complete
        { cityResponse with delivery := .chunked 1 false }.toBytes)]) = .unreachable := by
  have wellFormed : cityResponse.IsWellFormed := by
    have hname : ∀ c ∈ "Content-Type".toList,
        c.toNat < 0x80 ∧ Http.isNameByte (UInt8.ofNat c.toNat) := by decide
    have hlength : { cityResponse with delivery := .untilClosed }.writeHead.length = 70 := rfl
    refine ⟨by simp [cityResponse, Http.IsPlainChar], ?_, ?_, by decide, by decide, ?_⟩
    · simp only [cityResponse, List.forall_mem_singleton]
      exact ⟨by decide, hname, by simp [Http.IsPlainChar]⟩
    · simp only [cityResponse, List.forall_mem_singleton]
      decide
    · rw [hlength]
      decide
  have success : cityResponse.IsSuccessWithBody := ⟨by decide, by decide, by decide⟩
  obtain ⟨hwhole, hcut⟩ := check_of_delivery cityResponse wellFormed success (by decide)
  exact ⟨hwhole loopback _ (.chunked 1 true) true (.chunked (Nat.le_refl 1)) (delivers_loopback _),
    hcut loopback _ (.chunked 1 false) (.chunked (Nat.le_refl 1)) (delivers_loopback _)⟩

end Probe

/-! ## Documents that are cut short -/

/-- What stands before the last byte of a document that is no blank is refused, unless the document
is a number. So if only the end of the connection tells the end of a success and the connection is
closed too early, the check shows an unreachable backend. -/
theorem Payload.ofBytes_of_cut (payload : Payload) (cut later : List UInt8)
    (whole : Payload.ofBytes (cut ++ later) = .ok payload)
    (notNumber : ∀ number, payload.document ≠ .number number)
    (short : ∃ b ∈ later, Json.isBlank b = false) :
    (∃ fault, Payload.ofBytes cut = .error fault) ∧
    ∀ (probe : Probe) network head, probe.Receives network head .untilClosed cut true →
      200 ≤ head.status.number ∧ head.status.number ≤ 299 →
      probe.check network = .unreachable := by
  obtain ⟨document, hread, rfl⟩ := Json.map_eq_ok_iff.mp whole
  have hgap : ¬Json.IsGap later := by
    obtain ⟨b, hb, hblank⟩ := short
    intro isGap
    simp [isGap b hb] at hblank
  obtain ⟨fault, hfault⟩ := Json.Value.exists_fault_of_cut hread notNumber hgap
  have hcut : Payload.ofBytes cut = .error fault := by
    rw [Payload.ofBytes, hfault]
    rfl
  refine ⟨⟨fault, hcut⟩, fun probe network head receives success => ?_⟩
  have hfetch : probe.fetch network = .error (.decode fault) := by
    refine receives.fetch_of_success success ?_
    rw [Probe.judgeBody, Http.read_untilClosed]
    simp only [hcut]
    rfl
  rw [Probe.check, hfetch]
  rfl

/-- An object that is cut in the middle of an escape. -/
theorem Payload.ofBytes_of_cut_escape :
    let cut := "\x7b\"city\":\"Z\\u00"
    let network := Http.Network.ofConnections [.accepted (plainReply ["HTTP/1.1 200 OK"] cut)]
    (∃ fault, Payload.ofBytes (Utf8.encode cut) = .error fault) ∧
      loopback.check network = .unreachable := by
  intro cut network
  have whole : Payload.ofBytes (Utf8.encode cut ++ Utf8.encode "fcrich\"\x7d ") =
      .ok ⟨.object [("city", .text "Zürich")]⟩ := rfl
  have short : ∃ b ∈ Utf8.encode "fcrich\"\x7d ", Json.isBlank b = false := ⟨0x7D, by decide⟩
  obtain ⟨hfault, hcheck⟩ := Payload.ofBytes_of_cut _ _ _ whole nofun short
  have receives : loopback.Receives network ⟨false, ⟨200, by decide⟩, []⟩ .untilClosed
      (Utf8.encode cut) true :=
    ⟨loopbackRequest, ⟨0, 0, loopbackRequest⟩, _, 0, request_loopback, .refl, Nat.zero_le _, rfl,
      by decide, ⟨rfl, rfl⟩, rfl, rfl⟩
  exact ⟨hfault, hcheck loopback network _ receives (by decide)⟩

end HealthPanel
