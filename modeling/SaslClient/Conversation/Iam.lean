import SaslClient.Conversation.ServerFirst
import SaslClient.Document.Encode
import SaslClient.Resolver
import SaslClient.Signing.Authorization

/-!
# The signing conversation

Two messages. The first carries the client's nonce. The second answers the server's first message
with a signed request: its authorization header, its timestamp, and the session token if there is
one. A conversation that failed, or is asked for a third message, stays failed.
-/

namespace SaslClient.Conversation

namespace Iam

/-- How far a signing conversation is. -/
inductive Phase where
  | notStarted
  | awaitingServerFirst (nonce : Nonce)
  | complete
  | failed
deriving DecidableEq

/-- The flag that no channel is bound, the letter `n`, as a number. -/
def noChannelBinding : Int32 := 0x6e

/-- The document of the first message. -/
def firstDocument (nonce : Nonce) : Document :=
  .ofFields [("r", .binary nonce.bytes), ("p", .int32 noChannelBinding)]

/-- What the second message is signed for. -/
def signingInput (keys : SigningKeys) (first : ServerFirst) (timestamp : String) :
    SigningInput where
  accessKeyId := keys.accessKeyId
  secretKey := keys.secretKey
  sessionToken := keys.sessionToken
  host := first.host
  serverNonce := first.nonce
  timestamp := timestamp

/-- The document of the second message. -/
def finalDocument (keys : SigningKeys) (first : ServerFirst) (timestamp : String) :
    Except AuthError Document := do
  let authorization ←
    (Authorization.sign (signingInput keys first timestamp)).mapError .signing
  let token :=
    match keys.sessionToken with
    | some token => [("t", Value.text token)]
    | none => []
  .ok (.ofFields ([("a", .text authorization.header), ("d", .text timestamp)] ++ token))

end Iam

/-- A signing conversation. -/
structure Iam where
  resolver : Resolver
  phase : Iam.Phase
deriving DecidableEq

namespace Iam

/-- A new conversation. -/
def start (credential : Credential) : Iam :=
  ⟨{ credential }, .notStarted⟩

/-- The answer to the server's first message. The clock is read when the keys are there. -/
def answer (resolver : Resolver) (nonce : Nonce) (challenge : Bytes) :
    Act (Except AuthError Bytes × Resolver) :=
  match ServerFirst.read nonce challenge with
  | .error e => pure (.error e, resolver)
  | .ok first => do
    let (keys, resolver) ← resolver.resolve
    match keys with
    | .error e => pure (.error e, resolver)
    | .ok keys =>
      let now ← readClock
      pure ((finalDocument keys first now.timestamp).map Document.encode, resolver)

/-- The next message, given what the server sent. -/
def evaluate (c : Iam) (challenge : Bytes) : Act (Except AuthError Bytes × Iam) :=
  match c.phase with
  | .notStarted => do
    let nonce ← drawNonce
    pure (.ok (firstDocument nonce).encode, { c with phase := .awaitingServerFirst nonce })
  | .awaitingServerFirst nonce => do
    let (message, resolver) ← answer c.resolver nonce challenge
    match message with
    | .ok message => pure (.ok message, ⟨resolver, .complete⟩)
    | .error e => pure (.error e, ⟨resolver, .failed⟩)
  | .complete => pure (.error (.tooManySteps Mechanism.aws.name), { c with phase := .failed })
  | .failed => pure (.error .conversationAborted, c)

/-- Whether the last message was made. -/
def isComplete (c : Iam) : Bool :=
  c.phase == .complete

end Iam

end SaslClient.Conversation
