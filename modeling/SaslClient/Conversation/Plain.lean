import SaslClient.AuthError
import SaslClient.Credential
import SaslClient.Text.Utf8

/-!
# The plain conversation

One message, the username and the password with a zero byte before each. A conversation that failed,
or is asked for a second message, stays failed.
-/

namespace SaslClient.Conversation

namespace Plain

/-- How far a plain conversation is. -/
inductive Phase where
  | notStarted
  | complete
  | failed
deriving DecidableEq, Repr

/-- The message for a username and a password. -/
def payload (username password : String) : Bytes :=
  0 :: Utf8.encode username ++ 0 :: Utf8.encode password

/-- The message for a credential, which must have a username and a password. -/
def message (c : Credential) : Except AuthError Bytes :=
  match c.username, c.password with
  | some username, some password => .ok (payload username password)
  | _, _ => .error (.config .plainWithoutPair)

/-- Refuses a credential that there is no message for. -/
def check (c : Credential) : Except AuthError Unit :=
  if c.hasPair then .ok () else .error (.config .plainWithoutPair)

end Plain

/-- A plain conversation. -/
structure Plain where
  credential : Credential
  phase : Plain.Phase
deriving DecidableEq, Repr

namespace Plain

/-- A new conversation. -/
def start (credential : Credential) : Plain :=
  ⟨credential, .notStarted⟩

/-- The next message. What the server sent has no influence on it. -/
def evaluate (c : Plain) : Except AuthError Bytes × Plain :=
  match c.phase with
  | .notStarted =>
    match message c.credential with
    | .ok bytes => (.ok bytes, { c with phase := .complete })
    | .error e => (.error e, { c with phase := .failed })
  | .complete => (.error (.tooManySteps Mechanism.plain.name), { c with phase := .failed })
  | .failed => (.error .conversationAborted, c)

/-- Whether the last message was made. -/
def isComplete (c : Plain) : Bool :=
  c.phase == .complete

end Plain

end SaslClient.Conversation
