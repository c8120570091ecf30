import SaslClient.Clock.Timestamp
import SaslClient.Metadata.Client
import SaslClient.Nonce

/-!
# Surroundings

What the client takes from outside: random nonces, the time, and key documents. The surroundings
answer each request by its number, so they may answer every time differently, and an activity is a
function of the surroundings and of what was used of them before.

A time that no clock can tell stops whoever reads it. An activity goes on with any time, and
`Act.unlessStopped` says what is left of it when such times are met.
-/

namespace SaslClient

/-- The answers to the requests of a client, by number. -/
structure Surroundings where
  nonce : Nat → Nonce
  clock : Nat → Instant
  source : Nat → Except AuthError Metadata.Answer

/-- How many answers of each kind were used. -/
structure Usage where
  nonces : Nat := 0
  clockReads : Nat := 0
  fetches : Nat := 0
deriving DecidableEq, Repr

/-- Surroundings as they are met after some use. -/
def Surroundings.after (s : Surroundings) (u : Usage) : Surroundings where
  nonce n := s.nonce (u.nonces + n)
  clock n := s.clock (u.clockReads + n)
  source n := s.source (u.fetches + n)

/-- The source of key documents that a metadata client is. -/
def Metadata.Client.source (client : Client) (network : Http.Network) :
    Nat → Except AuthError Answer :=
  fun _ => (client.fetch network).result

/-- Something done in surroundings: a result, and the usage afterwards. -/
def Act (α : Type) : Type :=
  Surroundings → Usage → α × Usage

namespace Act

/-- The result and the usage afterwards. -/
def run {α : Type} (act : Act α) (s : Surroundings) (u : Usage) : α × Usage :=
  act s u

instance : Monad Act where
  pure a := fun _ u => (a, u)
  bind act next := fun s u => (next (act.run s u).1).run s (act.run s u).2

@[simp] theorem run_pure {α : Type} (a : α) (s : Surroundings) (u : Usage) :
    (pure a : Act α).run s u = (a, u) := rfl

@[simp] theorem run_bind {α β : Type} (act : Act α) (next : α → Act β) (s : Surroundings)
    (u : Usage) :
    (act >>= next).run s u = (next (act.run s u).1).run s (act.run s u).2 := rfl

end Act

/-- Takes the next nonce. -/
def drawNonce : Act Nonce :=
  fun s u => (s.nonce u.nonces, { u with nonces := u.nonces + 1 })

/-- Reads the clock. -/
def readClock : Act Instant :=
  fun s u => (s.clock u.clockReads, { u with clockReads := u.clockReads + 1 })

/-- Fetches a key document. -/
def fetchAnswer : Act (Except AuthError Metadata.Answer) :=
  fun s u => (s.source u.fetches, { u with fetches := u.fetches + 1 })

@[simp] theorem run_drawNonce (s : Surroundings) (u : Usage) :
    drawNonce.run s u = (s.nonce u.nonces, { u with nonces := u.nonces + 1 }) := rfl

@[simp] theorem run_readClock (s : Surroundings) (u : Usage) :
    readClock.run s u = (s.clock u.clockReads, { u with clockReads := u.clockReads + 1 }) := rfl

@[simp] theorem run_fetchAnswer (s : Surroundings) (u : Usage) :
    fetchAnswer.run s u = (s.source u.fetches, { u with fetches := u.fetches + 1 }) := rfl

/-! ## Times that stop an activity -/

/-- Whether a clock can tell all times that were read from one usage to another. -/
def Surroundings.tells (s : Surroundings) (u u' : Usage) : Bool :=
  (List.range' u.clockReads (u'.clockReads - u.clockReads)).all fun k => (s.clock k).isTold

theorem Surroundings.tells_of_read {s : Surroundings} {u u' : Usage}
    (h : u'.clockReads = u.clockReads + 1) : s.tells u u' = (s.clock u.clockReads).isTold := by
  have hone : u.clockReads + 1 - u.clockReads = 1 := Nat.add_sub_cancel_left _ _
  unfold tells
  rw [h, hone]
  exact Bool.and_true _

/-- The result of an activity, unless it reads a time that no clock can tell. Whoever reads such a
time is stopped by it. -/
def Act.unlessStopped {α : Type} (act : Act α) : Act (Option α) := fun s u =>
  let (a, u') := act.run s u
  (if s.tells u u' then some a else none, u')

theorem Act.unlessStopped_eq_some_iff {α : Type} {act : Act α} {s : Surroundings} {u : Usage}
    {a : α} :
    (act.unlessStopped.run s u).1 = some a ↔
      s.tells u (act.run s u).2 = true ∧ (act.run s u).1 = a := by
  show (if s.tells u (act.run s u).2 then some (act.run s u).1 else none) = some a ↔ _
  split <;> simp [*]

end SaslClient
