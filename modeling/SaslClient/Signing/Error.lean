/-!
# Signing errors

Signing is a function of its inputs, so it fails only on inputs that cannot be signed for.
-/

namespace SaslClient

/-- What is wrong with a host. `other` carries the wording of a fault reported from outside. -/
inductive HostFault where
  | empty
  | tooLong
  | edgeDot
  | emptyLabel
  | other (text : String)
deriving DecidableEq, Repr

/-- The wording of a host fault. -/
def HostFault.message : HostFault → String
  | .empty => "host is empty"
  | .tooLong => "host is longer than 255 bytes"
  | .edgeDot => "host starts or ends with a dot"
  | .emptyLabel => "host contains an empty label"
  | .other text => text

/-- Why a request cannot be signed. -/
inductive SigningError where
  /-- No region can be read off the host. -/
  | invalidHost (host : String) (fault : HostFault)
  /-- The timestamp is not eight digits, `T`, six digits and `Z`. -/
  | invalidTimestamp (timestamp : String)
  /-- There is no access key id to sign for. -/
  | emptyAccessKeyId
deriving DecidableEq, Repr

/-- The wording of a signing error. -/
def SigningError.message : SigningError → String
  | .invalidHost host fault => "invalid host `" ++ host ++ "`: " ++ fault.message
  | .invalidTimestamp timestamp => "invalid timestamp `" ++ timestamp ++ "`"
  | .emptyAccessKeyId => "access key id must not be empty"

end SaslClient
