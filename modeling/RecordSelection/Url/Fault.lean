/-!
Why a URL is refused.
-/

set_option autoImplicit false

namespace RecordSelection.Url

inductive Fault where
  | relative
  | emptyHost
  | badName
  | badSocket
  | badAddress4
  | badAddress6
  | badHostCharacter
  | opaquePath
  deriving DecidableEq, Repr

def Fault.message : Fault → String
  | .relative => "relative URL without a base"
  | .emptyHost => "empty host"
  | .badName => "invalid international domain name"
  | .badSocket => "invalid port number"
  | .badAddress4 => "invalid IPv4 address"
  | .badAddress6 => "invalid IPv6 address"
  | .badHostCharacter => "invalid domain character"
  | .opaquePath => "not a base URL"

end RecordSelection.Url
