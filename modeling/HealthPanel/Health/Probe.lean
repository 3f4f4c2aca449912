import HealthPanel.Config.Basic
import HealthPanel.Health.Failure
import HealthPanel.Http.Body
import HealthPanel.Http.Network
import HealthPanel.Http.Redirect

/-!
# Probing a backend

A probe asks for the health of an endpoint, follows redirects, and reads the body of a success.
It ends at the first of these that is known: the request cannot be made, no connection, a
response that cannot be read, too many redirects or one to a place of another kind, a status that is
no success, a body, or the end of its time. A client may have a limit of its own, which is looked at
before that of the probe where both have passed.
-/

namespace HealthPanel

/-- A fault between the program and the backend. -/
inductive TransportFault
  | request (fault : Http.RequestFault)
  | refused
  | badResponse
  | badBody
  | tooManyRedirects
  /-- The client's own limit has passed. -/
  | expired
  deriving DecidableEq

/-- The fault in words. -/
def TransportFault.message : TransportFault → String
  | request fault => fault.message
  | refused => "error trying to connect"
  | badResponse => "error reading the response"
  | badBody => "error reading the body"
  | tooManyRedirects => "too many redirects"
  | expired => "operation timed out"

/-- Why a probe failed. -/
abbrev ProbeFailure := Failure TransportFault

/-- What sends the requests of a probe. -/
structure Client where
  userAgent : Option String
  /-- The time it gives a request, if it has a limit of its own. -/
  limit : Option Span
  deriving DecidableEq

/-- The client of a program that brings none. -/
def Client.default (limits : ProbeLimits) : Client :=
  { userAgent := some "status-probe/0.1.0", limit := some limits.timeout }

/-- A client that has no name and no limit. -/
def Client.plain : Client :=
  { userAgent := none, limit := none }

/-- A probe of an endpoint. -/
structure Probe where
  endpoint : Endpoint
  limits : ProbeLimits
  client : Client
  deriving DecidableEq

/-- How a single request ends. -/
inductive Verdict
  | settled (result : Except ProbeFailure Payload)
  | redirected (next : Http.Request)

namespace Probe

/-- The probe of an endpoint with the client that gives up when the probe does. -/
def ofConfig (endpoint : Endpoint) (limits : ProbeLimits) : Probe :=
  ⟨endpoint, limits, .default limits⟩

/-- A transport fault as the result of a probe. -/
def broken (fault : TransportFault) : Except ProbeFailure Payload :=
  .error (.transport fault)

/-- The first request of the probe. -/
def request (probe : Probe) : Except Http.RequestFault Http.Request :=
  Http.Request.ofString probe.client.userAgent probe.endpoint.healthUrl

/-- The result that the bytes after the head of a success tell, if they tell any yet. -/
def judgeBody (framing : Http.Framing) (bytes : List UInt8) (closed : Bool) :
    Option (Except ProbeFailure Payload) :=
  match framing.read closed bytes with
  | .more => none
  | .bad => some (broken .badBody)
  | .done body _ => some ((Payload.ofBytes body).mapError .decode)

/-- What a head tells of the request, together with the bytes after it. -/
def judgeHead (request : Http.Request) (head : Http.Head) (framing : Http.Framing)
    (bytes : List UInt8) (closed : Bool) : Option Verdict :=
  match head.redirect? request with
  | some next => some (.redirected next)
  | none =>
    if head.status.isSuccess then (judgeBody framing bytes closed).map .settled
    else some (.settled (.error (.protocol head.status)))

/-- What the pieces that have come in tell of the request, if they tell anything yet. A head
that contradicts itself about the body is no head. -/
def judge (reader : Http.Reader) (request : Http.Request) (received : List (List UInt8))
    (closed : Bool) : Option Verdict :=
  match Http.Head.read reader received with
  | .more => if closed then some (.settled (broken .badResponse)) else none
  | .bad => some (.settled (broken .badResponse))
  | .done head rest =>
    match head.framing? with
    | none => some (.settled (broken .badResponse))
    | some framing => judgeHead request head framing rest closed

/-- What a probe has done: the requests it has sent, and its result unless its time ran out. -/
structure Trace where
  requests : List Http.Request
  result : Option (Except ProbeFailure Payload)

/-- What a request meets. A URL without a host leads nowhere. -/
def connect (network : Http.Network) (earlier : Nat) (request : Http.Request) : Http.Connection :=
  if request.url.hasHost then network.connection earlier request else .refused

/-- Sends a request after some earlier ones and follows redirects, at most `left` of them, from a
time on up to a deadline. -/
def send (network : Http.Network) (deadline : Nat) : Nat → Nat → Nat → Http.Request → Trace
  | left, earlier, now, request =>
    match connect network earlier request with
    | .refused => ⟨[], some (broken .refused)⟩
    | .accepted reply =>
      match reply.await (judge network.leeway.reader request) deadline now with
      | none => ⟨[request], none⟩
      | some (_, .settled result) => ⟨[request], some result⟩
      | some (now, .redirected next) =>
        match left with
        | 0 => ⟨[request], some (broken .tooManyRedirects)⟩
        | left + 1 =>
          if next.isOfWeb then
            let trace := send network deadline left (earlier + 1) now next
            ⟨request :: trace.requests, trace.result⟩
          else ⟨[request], some (broken (.request (.unsupportedScheme next.url)))⟩

/-- When the client ends a probe by its own limit, if it has one, in nanoseconds. -/
def clientEnd? (probe : Probe) (network : Http.Network) : Option Nat :=
  probe.client.limit.map (·.inNanoseconds + network.leeway.lag)

/-- When the probe ends at last, in nanoseconds. -/
def deadline (probe : Probe) (network : Http.Network) : Nat :=
  let own := probe.limits.timeout.inNanoseconds
  (probe.clientEnd? network).elim own (min own)

/-- The failure of a probe whose time ran out. -/
def expiry (probe : Probe) (network : Http.Network) : ProbeFailure :=
  let limit := probe.limits.timeout
  if (probe.clientEnd? network).any (· ≤ limit.inNanoseconds) then .transport .expired
  else .timeout limit

/-- What the probe does on a network. -/
def trace (probe : Probe) (network : Http.Network) : Trace :=
  match probe.request with
  | .error fault => ⟨[], some (broken (.request fault))⟩
  | .ok request => send network (probe.deadline network) Http.maxRedirects 0 0 request

/-- The requests that the probe sends. -/
def requests (probe : Probe) (network : Http.Network) : List Http.Request :=
  (probe.trace network).requests

/-- The payload of the backend, or why there is none. -/
def fetch (probe : Probe) (network : Http.Network) : Except ProbeFailure Payload :=
  (probe.trace network).result.getD (.error (probe.expiry network))

/-- The display state that the probe ends in. -/
def check (probe : Probe) (network : Http.Network) : Status :=
  .ofResult (probe.fetch network)

end Probe

end HealthPanel
