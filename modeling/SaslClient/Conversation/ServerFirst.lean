import SaslClient.AuthError
import SaslClient.Document.Access
import SaslClient.Document.Decode
import SaslClient.Nonce
import SaslClient.Signing.Region

/-!
# The server's first message

What the server answers to the client's nonce: a host to sign for, and a nonce of twice the length
that begins with the client's. Reading it includes every check that needs no keys, so nothing is
looked up or signed for a message that fails one.
-/

namespace SaslClient.Conversation

/-- The server's first message. -/
structure ServerFirst where
  host : String
  nonce : Bytes
deriving DecidableEq, Repr

namespace ServerFirst

/-- The number of bytes of a server nonce. -/
def nonceSize : Nat := 2 * Nonce.size

/-- Refuses a server nonce of another length, or one that does not begin with the client's. -/
def checkNonce (clientNonce : Nonce) (nonce : Bytes) : Except AuthError Unit :=
  if nonce.length ≠ nonceSize then
    .error (.invalidServerNonce (.wrongLength nonceSize nonce.length))
  else if nonce.take Nonce.size ≠ clientNonce.bytes then .error (.invalidServerNonce .notEchoed)
  else .ok ()

/-- Reads and checks the server's first message. -/
def read (clientNonce : Nonce) (challenge : Bytes) : Except AuthError ServerFirst := do
  let d ← (Document.decode challenge).mapError .document
  let host ← (d.getText "h").mapError .document
  let nonce ← (d.getBinary "s").mapError .document
  checkNonce clientNonce nonce
  let _ ← (Region.ofHost host).mapError .signing
  .ok ⟨host, nonce⟩

end ServerFirst

end SaslClient.Conversation
