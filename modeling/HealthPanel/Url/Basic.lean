import HealthPanel.Url.Host

/-!
# URLs

An absolute URL by its parts. Texts inside the parts are percent-encoded already, so that a URL
is written by joining its parts with their marks.
-/

namespace HealthPanel

namespace Url

/-- The path of a URL. -/
inductive Path
  /-- A path that is no list of segments, as after `mailto:`. -/
  | whole (text : String)
  | segments (names : List String)
  deriving DecidableEq

/-- The path as text, each segment behind a slash. -/
def Path.render : Path → String
  | whole text => text
  | segments names => String.join (names.map ("/" ++ ·))

/-- The schemes that have a host and a path of segments. -/
def isSpecialScheme (scheme : String) : Bool :=
  scheme ∈ ["http", "https", "ws", "wss", "ftp", "file"]

/-- The port that a scheme uses unless a URL says otherwise. -/
def defaultPort? (scheme : String) : Option Nat :=
  [("http", 80), ("https", 443), ("ws", 80), ("wss", 443), ("ftp", 21)].lookup scheme

end Url

/-- An absolute URL. -/
structure Url where
  scheme : String
  username : String
  password : Option String
  host : Option Url.Host
  /-- The port, if it is not the one that the scheme uses anyway. -/
  port : Option Nat
  path : Url.Path
  query : Option String
  fragment : Option String
  deriving DecidableEq

namespace Url

/-- Whether the URL names a host. -/
def hasHost (url : Url) : Bool :=
  url.host.any Host.isPresent

/-- The port that a connection is made to. -/
def effectivePort? (url : Url) : Option Nat :=
  url.port <|> defaultPort? url.scheme

/-- User name and password with the mark after them; nothing if both are missing. -/
def credentialsText (url : Url) : String :=
  if url.username = "" ∧ url.password = none then ""
  else url.username ++ (url.password.elim "" (":" ++ ·)) ++ "@"

/-- What stands between the scheme and the path. -/
def authorityText (url : Url) : String :=
  match url.host with
  | some host =>
    "//" ++ url.credentialsText ++ host.render ++ url.port.elim "" (":" ++ toString ·)
  | none =>
    if url.scheme = "file" then "//"
    else
      match url.path with
      | .segments ("" :: _ :: _) => "/."
      | _ => ""

/-- The URL as text. -/
def render (url : Url) : String :=
  url.scheme ++ ":" ++ url.authorityText ++ url.path.render ++ url.query.elim "" ("?" ++ ·)
    ++ url.fragment.elim "" ("#" ++ ·)

/-- The URL without user name and password. -/
def withoutCredentials (url : Url) : Url :=
  { url with username := "", password := none }

end Url

end HealthPanel
