import SaslClient.Conversation.Basic

/-!
# Attempts

One attempt to authenticate over a connection. The first message of a conversation travels in a
start command, every other one in a continue command, until the server is done or either side fails.
Each attempt has a conversation of its own, so it draws a new nonce and keeps nothing of earlier
ones.
-/

namespace SaslClient

/-- A command and the database that it goes to. -/
structure Command where
  database : String
  document : Document
deriving DecidableEq

/-- A connection: the reply to the last of some commands, or why there is none. It may depend on all
that was sent before. -/
abbrev Transport := List Command → Except AuthError Document

/-- What came of an attempt, and the commands that were sent. -/
structure Attempt where
  outcome : Except AuthError Unit
  sent : List Command

namespace Reply

/-- Whether a reply reports success: its number `ok` is one, or the double just below one. -/
def isOk (reply : Document) : Bool :=
  match (reply.get? "ok").bind Value.toDouble? with
  | some n => n == Double.one || n == Double.belowOne
  | none => false

/-- The error that a reply without success reports. -/
def serverError (reply : Document) : AuthError :=
  .server
    (match reply.getInt32 "code" with
      | .ok code => code
      | .error _ => 0)
    (match reply.getText "errmsg" with
      | .ok text => text
      | .error _ => "command failed without an error message")

/-- A reply that reports success. -/
def check (reply : Document) : Except AuthError Document :=
  if isOk reply then .ok reply else .error (serverError reply)

end Reply

namespace Attempt

/-- The command with the first message. -/
def startCommand (mechanism : Mechanism) (payload : Bytes) : Document :=
  .ofFields
    [("saslStart", .int32 1), ("mechanism", .text mechanism.name), ("payload", .binary payload)]

/-- The command with another message. -/
def continueCommand (conversationId : Int32) (payload : Bytes) : Document :=
  .ofFields
    [("saslContinue", .int32 1), ("conversationId", .int32 conversationId),
      ("payload", .binary payload)]

/-- An attempt that failed after these commands. -/
def fail (e : AuthError) (sent : List Command) : Attempt :=
  ⟨.error e, sent⟩

/-- What came of a command: a reply that reports success, or else the end of the attempt. -/
def send (transport : Transport) (sent : List Command) : Except AuthError Document :=
  (transport sent).bind Reply.check

/-- Where the relay of messages stands: the conversation, the last reply, and what was sent. -/
structure Relay where
  conversation : Conversation
  reply : Document
  sent : List Command

/-- One round of the relay: the end of the attempt if the server is done or either side fails, and
otherwise where the relay stands after another command. -/
def round (transport : Transport) (database : String) (conversationId : Int32) (r : Relay) :
    Act (Attempt ⊕ Relay) :=
  match r.reply.getBool "done" with
  | .error e => pure (.inl (fail (.document e) r.sent))
  | .ok true =>
    if r.conversation.isComplete then pure (.inl ⟨.ok (), r.sent⟩)
    else pure (.inl (fail (.protocol .finishedEarly) r.sent))
  | .ok false =>
    if r.conversation.isComplete then pure (.inl (fail (.protocol .noResponse) r.sent))
    else
      match r.reply.getBinary "payload" with
      | .error e => pure (.inl (fail (.document e) r.sent))
      | .ok challenge => do
        let (message, conversation) ← r.conversation.evaluate challenge
        match message with
        | .error e => pure (.inl (fail e r.sent))
        | .ok payload =>
          let sent := r.sent ++ [⟨database, continueCommand conversationId payload⟩]
          match send transport sent with
          | .error e => pure (.inl (fail e sent))
          | .ok reply => pure (.inr ⟨conversation, reply, sent⟩)

/-- Relays messages until the attempt ends, in at most so many rounds. A conversation has fewer
messages left than there are rounds, so the bound is never met. -/
def relay (transport : Transport) (database : String) (conversationId : Int32) :
    (rounds : Nat) → Relay → Act Attempt
  | 0, r => pure (fail .conversationAborted r.sent)
  | rounds + 1, r => do
    match ← round transport database conversationId r with
    | .inl attempt => pure attempt
    | .inr r => relay transport database conversationId rounds r

/-- Carries a new conversation through. -/
def converse (transport : Transport) (database : String) (conversation : Conversation) :
    Act Attempt := do
  let (message, conversation) ← conversation.first
  match message with
  | .error e => pure (fail e [])
  | .ok payload =>
    let sent := [⟨database, startCommand conversation.mechanism payload⟩]
    match send transport sent with
    | .error e => pure (fail e sent)
    | .ok reply =>
      match reply.getInt32 "conversationId" with
      | .error e => pure (fail (.document e) sent)
      | .ok conversationId =>
        relay transport database conversationId Conversation.maxMessages ⟨conversation, reply, sent⟩

end Attempt

/-- Attempts to authenticate over a connection. A configuration that cannot work is refused before
anything is sent. -/
def authenticate (credential : Credential) (transport : Transport) : Act Attempt :=
  match Conversation.ofCredential credential with
  | .error e => pure (Attempt.fail e [])
  | .ok conversation => Attempt.converse transport credential.source conversation

end SaslClient
