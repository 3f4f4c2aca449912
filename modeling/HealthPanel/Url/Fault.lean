/-!
# What can be wrong with a URL
-/

namespace HealthPanel.Url

/-- Why a text is no absolute URL. -/
inductive Fault
  | emptyHost
  | invalidDomain
  | invalidPort
  | invalidIpv4
  | invalidIpv6
  | invalidHostCharacter
  | noScheme
  deriving DecidableEq

/-- The fault in words. -/
def Fault.message : Fault → String
  | emptyHost => "empty host"
  | invalidDomain => "invalid international domain name"
  | invalidPort => "invalid port number"
  | invalidIpv4 => "invalid IPv4 address"
  | invalidIpv6 => "invalid IPv6 address"
  | invalidHostCharacter => "invalid domain character"
  | noScheme => "relative URL without a base"

end HealthPanel.Url
