import HealthPanel.Url.Domain.Ascii
import HealthPanel.Url.Fault
import HealthPanel.Url.Ipv6
import HealthPanel.Url.Percent

/-!
# Hosts of URLs

A host is a name or an address. The host of a special URL is a domain name, which is put into
ASCII first and taken as an IPv4 address when it ends in a number; any other host is kept as it
stands. In brackets both are IPv6 addresses.
-/

namespace HealthPanel.Url

/-- The host of a URL. -/
inductive Host
  | name (text : String)
  | ipv4 (ip : Ipv4)
  | ipv6 (ip : Ipv6)
  deriving DecidableEq

namespace Host

/-- The host as text. -/
def render : Host → String
  | name text => text
  | ipv4 ip => ip.render
  | ipv6 ip => ip.render

/-- Whether anything can be asked of the host. -/
def isPresent : Host → Bool
  | name text => text ≠ ""
  | _ => true

/-- The host of brackets and their contents. -/
def ofBrackets (text : List Char) : Except Fault Host :=
  if text.getLast? = some ']' then
    match Ipv6.ofText? (text.drop 1).dropLast with
    | some ip => .ok (ipv6 ip)
    | none => .error .invalidIpv6
  else .error .invalidIpv6

/-- The host that a domain name in ASCII stands for. -/
def ofAscii (domain : String) : Except Fault Host :=
  if domain = "" then .error .emptyHost
  else if Ipv4.endsInNumber domain then
    match Ipv4.ofDomain? domain with
    | some ip => .ok (ipv4 ip)
    | none => .error .invalidIpv4
  else .ok (name domain)

/-- The host of a special URL. -/
def ofDomain (text : List Char) : Except Fault Host :=
  if text.head? = some '[' then ofBrackets text
  else
    let decoded := Utf8.decode? (percentDecode (Utf8.encode (String.ofList text)))
    match decoded.bind Domain.toAscii? with
    | some domain => ofAscii domain
    | none => .error .invalidDomain

/-- The characters that no host may hold. -/
def isForbidden (c : Char) : Bool :=
  c ∈ "\x00\t\n\r #/:<>?@[\\]^|".toList

/-- The host of any other URL. -/
def ofOpaque (text : List Char) : Except Fault Host :=
  if text.head? = some '[' then ofBrackets text
  else if text.any isForbidden then .error .invalidHostCharacter
  else .ok (name (percentEncode .controls text))

end Host

end HealthPanel.Url
