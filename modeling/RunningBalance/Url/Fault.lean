/-!
# Texts that are no URLs
-/

set_option autoImplicit false
set_option relaxedAutoImplicit false

namespace RunningBalance.Url

/-- Why a text is no URL of a web server. -/
inductive Fault
  | scheme
  | noHost
  /-- The host starts with a bracket and is no address. -/
  | bracketed
  /-- The host has no name in ASCII. -/
  | name
  /-- The host ends in a number and is no address. -/
  | address
  | service
  deriving DecidableEq, Repr

def Fault.message : Fault → String
  | .scheme => "URL scheme is not allowed"
  | .noHost => "empty host"
  | .bracketed => "invalid IPv6 address"
  | .name => "invalid international domain name"
  | .address => "invalid IPv4 address"
  | .service => "invalid port number"

end RunningBalance.Url
