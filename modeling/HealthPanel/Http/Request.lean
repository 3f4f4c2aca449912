import HealthPanel.Http.Address
import HealthPanel.Text.Base64
import HealthPanel.Url.Parser

/-!
# Requests

A request asks for a URL of the web. The user name and the password that the URL may hold are not
sent in it, but as a header of their own. A text that is no such URL makes no request.
-/

namespace HealthPanel.Http

/-- Why a request cannot be made. -/
inductive RequestFault
  | invalidUrl (fault : Url.Fault)
  | unsupportedScheme (url : Url)
  | notAddress (url : Url)
  deriving DecidableEq

/-- The fault in words. -/
def RequestFault.message : RequestFault → String
  | invalidUrl fault => "builder error: " ++ fault.message
  | unsupportedScheme url =>
    "builder error for url (" ++ url.render ++ "): URL scheme is not allowed"
  | notAddress url =>
    "builder error for url (" ++ url.render ++ "): Parsed Url is not a valid Uri"

/-- A user name, and a password if there is one. -/
structure Credentials where
  username : String
  password : Option String
  deriving DecidableEq

/-- The value of the header that carries credentials. -/
def Credentials.header (credentials : Credentials) : String :=
  let text := credentials.username ++ ":" ++ credentials.password.getD ""
  "Basic " ++ String.ofList (Text.base64 (Utf8.encode text))

/-- A text with its percent signs resolved, if that makes a text. -/
def decodePercent? (text : String) : Option String :=
  Utf8.decode? (Url.percentDecode (Utf8.encode text))

/-- The credentials that a URL holds. There are none when the user name is no text. -/
def credentialsOf? (url : Url) : Option Credentials := do
  guard url.host.isSome
  let username ← decodePercent? url.username
  let password := url.password.bind decodePercent?
  guard (username ≠ "" ∨ password.isSome)
  return ⟨username, password⟩

/-- A request for a URL. -/
structure Request where
  url : Url
  userAgent : Option String
  authorization : Option Credentials
  referer : Option String
  deriving DecidableEq

namespace Request

/-- The schemes of requests. -/
def schemes : List String := ["http", "https"]

/-- Whether a request can be sent to a place of its scheme. -/
def isOfWeb (request : Request) : Bool :=
  request.url.scheme ∈ schemes

/-- The request for a URL, without a referer. -/
def ofUrl (userAgent : Option String) (url : Url) : Except RequestFault Request :=
  if !url.hasHost then .error (.unsupportedScheme url)
  else
    let authorization := credentialsOf? url
    let url := if authorization.isSome then url.withoutCredentials else url
    if url.scheme ∉ schemes then .error (.unsupportedScheme url)
    else if !isAddress url then .error (.notAddress url)
    else .ok { url, userAgent, authorization, referer := none }

/-- The request for the URL that a text writes. -/
def ofString (userAgent : Option String) (text : String) : Except RequestFault Request :=
  match Url.ofString text with
  | .error fault => .error (.invalidUrl fault)
  | .ok url => ofUrl userAgent url

/-- What is asked for: the path and the query. -/
def target (request : Request) : String :=
  request.url.path.render ++ request.url.query.elim "" ("?" ++ ·)

/-- The host that is asked, with its port if that is not the one of the scheme. -/
def hostText (request : Request) : String :=
  request.url.host.elim "" Url.Host.render ++ request.url.port.elim "" (":" ++ toString ·)

/-- The headers, sorted by name. -/
def headers (request : Request) : List (String × String) :=
  let given (name : String) (value : Option String) := (value.map fun text => (name, text)).toList
  [("accept", "*/*")] ++ given "authorization" (request.authorization.map Credentials.header)
    ++ [("host", request.hostText)] ++ given "referer" request.referer
    ++ given "user-agent" request.userAgent

/-- The request as it is sent. -/
def toBytes (request : Request) : List UInt8 :=
  let lines := ("GET " ++ request.target ++ " HTTP/1.1")
    :: request.headers.map fun (name, value) => name ++ ": " ++ value
  Utf8.encode (String.join ((lines ++ [""]).map (· ++ "\r\n")))

end Request

end HealthPanel.Http
