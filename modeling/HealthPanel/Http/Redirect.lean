import HealthPanel.Http.Head
import HealthPanel.Http.Request
import HealthPanel.Url.Join

/-!
# Redirects

A response may send the client elsewhere. It is followed, up to ten times, when it names a place
that a request can be sent to. The next request tells where it was sent from, without
credentials, and carries credentials only as long as host and port stay the same.
-/

namespace HealthPanel.Http

/-- How many redirects are followed. -/
def maxRedirects : Nat := 10

/-- The statuses that send the client elsewhere. -/
def isRedirect (status : StatusCode) : Bool :=
  status.number ∈ [301, 302, 303, 307, 308]

/-- The place that a head names, read against the URL that was asked for. -/
def Head.location? (head : Head) (url : Url) : Option Url := do
  let text ← Utf8.decode? (← (head.values "location").head?)
  match url.join text with
  | .ok next => if isAddress next then some next else none
  | .error _ => none

/-- Whether two URLs have the same host and port. -/
def isSameHost (a b : Url) : Bool :=
  a.host = b.host && a.effectivePort? = b.effectivePort?

namespace Request

/-- What the next request tells of the place where it was sent from; a secure place is not told to
one that is not. -/
def refererFor? (request : Request) (next : Url) : Option String :=
  if next.scheme = "http" ∧ request.url.scheme = "https" then none
  else some { request.url.withoutCredentials with fragment := none }.render

/-- The request that a redirect leads to. -/
def redirectTo (request : Request) (next : Url) : Request :=
  { request with
    url := next
    authorization := if isSameHost next request.url then request.authorization else none
    referer := (request.refererFor? next).or request.referer }

end Request

/-- The request that the head of a response leads to, if it leads anywhere. -/
def Head.redirect? (head : Head) (request : Request) : Option Request :=
  if isRedirect head.status then (head.location? request.url).map request.redirectTo else none

end HealthPanel.Http
