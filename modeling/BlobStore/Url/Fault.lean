/-!
# Faults of an address
-/

namespace BlobStore.Url

/-- Why a text is no address. -/
inductive Fault where
  | emptyHost
  | badDomain
  | badHostCharacter
  | badPort
  | badDotted
  | badGroups
  deriving DecidableEq, Inhabited, Repr

def Fault.message : Fault → String
  | .emptyHost => "empty host"
  | .badDomain => "invalid international domain name"
  | .badHostCharacter => "invalid domain character"
  | .badPort => "invalid port number"
  | .badDotted => "invalid IPv4 address"
  | .badGroups => "invalid IPv6 address"

end BlobStore.Url
