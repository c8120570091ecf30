import SaslClient.Conversation.Iam
import SaslClient.Conversation.Plain

/-!
# Conversations

One run of a mechanism on the client's side. The client speaks first, then answers each challenge of
the server until its last message.
-/

namespace SaslClient

/-- A conversation of either mechanism. -/
inductive Conversation where
  | iam (c : Conversation.Iam)
  | plain (c : Conversation.Plain)
deriving DecidableEq

namespace Conversation

/-- The conversation that a credential asks for, if its configuration can work. -/
def ofCredential (c : Credential) : Except AuthError Conversation :=
  if c.mechanism.isBlank then .error (.config .noMechanism)
  else if c.mechanism = .aws then (Resolver.check c).map fun _ => .iam (.start c)
  else if c.mechanism = .plain then (Plain.check c).map fun _ => .plain (.start c)
  else .error (.config (.unknownMechanism c.mechanism.name))

/-- The mechanism of a conversation. -/
def mechanism : Conversation → Mechanism
  | .iam _ => .aws
  | .plain _ => .plain

/-- Whether the client speaks first, which both mechanisms want. -/
def clientSpeaksFirst : Conversation → Bool
  | .iam _ => true
  | .plain _ => true

/-- The greatest number of messages that a client has in a conversation. -/
def maxMessages : Nat := 2

/-- The next message of the client, given what the server sent. -/
def evaluate (c : Conversation) (challenge : Bytes) :
    Act (Except AuthError Bytes × Conversation) :=
  match c with
  | .iam c => do
    let (message, c) ← c.evaluate challenge
    pure (message, .iam c)
  | .plain c =>
    let (message, c) := c.evaluate
    pure (message, .plain c)

theorem clientSpeaksFirst_eq_true (c : Conversation) : c.clientSpeaksFirst = true := by
  cases c <;> rfl

/-- The message that opens a conversation: that of a client who speaks first, and otherwise an empty
one. -/
def first (c : Conversation) : Act (Except AuthError Bytes × Conversation) :=
  if c.clientSpeaksFirst then c.evaluate [] else pure (.ok [], c)

/-- Under both mechanisms the client makes the message that opens a conversation. -/
theorem first_eq_evaluate (c : Conversation) : c.first = c.evaluate [] :=
  if_pos c.clientSpeaksFirst_eq_true

/-- Whether the client has sent its last message. -/
def isComplete : Conversation → Bool
  | .iam c => c.isComplete
  | .plain c => c.isComplete

end Conversation

end SaslClient
