/-!
# Why a text is no URL
-/

namespace Parley.Url

inductive Error
  | emptyHost | badDomain | badPort | badIpv4 | badIpv6 | badHostCharacter | relative
  deriving DecidableEq, Repr

def Error.message : Error → String
  | emptyHost => "empty host"
  | badDomain => "invalid international domain name"
  | badPort => "invalid port number"
  | badIpv4 => "invalid IPv4 address"
  | badIpv6 => "invalid IPv6 address"
  | badHostCharacter => "invalid domain character"
  | relative => "relative URL without a base"

end Parley.Url
