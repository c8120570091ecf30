import SaslClient.Text.Blank

/-!
# Mechanisms

The name under which a way of authenticating is known to the server.
-/

namespace SaslClient

/-- The name of a mechanism. -/
structure Mechanism where
  name : String
deriving DecidableEq, Repr

namespace Mechanism

/-- The mechanism that signs a request with cloud keys. -/
def aws : Mechanism := ⟨"MONGODB-AWS"⟩

/-- The mechanism that sends a username and a password. -/
def plain : Mechanism := ⟨"PLAIN"⟩

/-- Whether no mechanism is configured: the name is empty or holds blanks only. -/
def isBlank (m : Mechanism) : Bool :=
  Text.isAllBlank m.name

end Mechanism

end SaslClient
