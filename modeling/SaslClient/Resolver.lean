import SaslClient.Credential
import SaslClient.Metadata.KeyDocument
import SaslClient.Surroundings

/-!
# Resolving keys

The keys to sign with. A configured username and password are used as they are, with the configured
session token. If either is missing, the token is looked up in a key document, and each of the other
two unless it is configured. So there are up to three look-ups, one after the other, and the first
that fails ends them. The document is fetched by the first look-up that finds none, and a document
that was read is kept for the next look-up and the next time.

A configured token without both username and password is refused before anything is fetched, and an
empty token counts as none.
-/

namespace SaslClient

/-- Where keys come from. -/
inductive Origin where
  /-- All of them from the configuration. -/
  | explicit
  /-- Some of them from a key document. -/
  | derived
deriving DecidableEq, Repr

/-- The name of an origin for display. -/
def Origin.name : Origin → String
  | .explicit => "Explicit"
  | .derived => "Derived"

/-- Keys to sign with. -/
structure SigningKeys where
  accessKeyId : String
  secretKey : String
  sessionToken : Option String
  origin : Origin
deriving DecidableEq, Repr

/-- A session token, unless it is empty. -/
def SigningKeys.usableToken (token : Option String) : Option String :=
  token.filter fun t => !t.isEmpty

/-- Resolves the keys of one conversation. -/
structure Resolver where
  credential : Credential
  /-- The key document that was read. -/
  document? : Option Metadata.KeyDocument := none
deriving DecidableEq, Repr

namespace Resolver

/-- A part of resolving: it works on the resolver that the part before it left, and a failure ends
the whole. -/
abbrev Resolving := ExceptT AuthError (StateT Resolver Act)

/-- Carries out a part of resolving on a resolver: what it gives, and the resolver that it leaves. -/
def Resolving.on {α : Type} (part : Resolving α) (r : Resolver) :
    Act (Except AuthError α × Resolver) :=
  part.run.run r

namespace Resolving

variable {α β : Type} {part : Resolving α} {next : α → Resolving β} {r r' : Resolver}
  {s : Surroundings} {u u' : Usage}

@[simp] theorem run_on_pure (a : α) (r : Resolver) (s : Surroundings) (u : Usage) :
    ((pure a : Resolving α).on r).run s u = ((.ok a, r), u) := rfl

theorem run_on_bind (part : Resolving α) (next : α → Resolving β) (r : Resolver)
    (s : Surroundings) (u : Usage) :
    (Resolving.on (part >>= next) r).run s u =
      match (part.on r).run s u with
      | ((.ok a, r'), u') => ((next a).on r').run s u'
      | ((.error e, r'), u') => ((.error e, r'), u') := by
  show (ExceptT.bindCont next ((part.on r).run s u).1.1 ((part.on r).run s u).1.2).run s
    ((part.on r).run s u).2 = _
  rcases (part.on r).run s u with ⟨⟨e | a, r'⟩, u'⟩ <;> rfl

theorem run_on_bind_of_ok {a : α} (h : (part.on r).run s u = ((.ok a, r'), u')) :
    (Resolving.on (part >>= next) r).run s u = ((next a).on r').run s u' := by
  rw [run_on_bind, h]

theorem run_on_bind_of_error {e : AuthError} (h : (part.on r).run s u = ((.error e, r'), u')) :
    (Resolving.on (part >>= next) r).run s u = ((.error e, r'), u') := by
  rw [run_on_bind, h]

/-- Behind a part, its result is changed by a function. -/
theorem run_on_map (part : Resolving α) (f : α → β) (r : Resolver) (s : Surroundings) (u : Usage) :
    (Resolving.on (do return f (← part)) r).run s u =
      let before := (part.on r).run s u
      ((before.1.1.map f, before.1.2), before.2) := by
  rw [run_on_bind]
  rcases (part.on r).run s u with ⟨⟨e | a, r'⟩, u'⟩ <;> rfl

/-- When all that follows a part leaves the resolver as it is, the results are a chain. -/
theorem run_on_bind_of_map {γ : Type} {x : Except AuthError γ} {f : γ → α}
    {y : γ → Except AuthError β} (h : (part.on r).run s u = ((x.map f, r'), u'))
    (hnext : ∀ a, ((next (f a)).on r').run s u' = ((y a, r'), u')) :
    (Resolving.on (part >>= next) r).run s u = ((x >>= y, r'), u') := by
  cases x with
  | error e => exact run_on_bind_of_error h
  | ok a => exact (run_on_bind_of_ok h).trans (hnext a)

end Resolving

/-- Refuses a credential whose keys can never be resolved. -/
def check (c : Credential) : Except AuthError Unit :=
  if c.sessionToken?.isSome && !c.hasPair then .error (.config .tokenWithoutPair) else .ok ()

/-- Takes the key document out of the resolver. -/
def takeDocument : Resolving (Option Metadata.KeyDocument) :=
  modifyGet fun r => (r.document?, { r with document? := none })

/-- Puts a key document into the resolver. -/
def putDocument (d : Metadata.KeyDocument) : Resolving Metadata.KeyDocument :=
  modifyGet fun r => (d, { r with document? := some d })

/-- The key document that was taken out, or one that is fetched if there was none. -/
def takenOrFetched : Option Metadata.KeyDocument → Resolving Metadata.KeyDocument
  | some d => pure d
  | none => do (← fetchAnswer).bind Metadata.KeyDocument.parse

/-- Looks up the key document: it is taken out of the resolver or else fetched, and put back. When
none can be fetched and read, nothing is put back. -/
def document : Resolving Metadata.KeyDocument := do
  putDocument (← takenOrFetched (← takeDocument))

/-- Looks up a field of the key document. -/
def lookUp (field : KeyField) : Resolving String := do
  (← document).require field

/-- The session token: the configured one for keys that are configured in full, and otherwise that
of the key document. -/
def token (c : Credential) : Resolving (Option String × Origin) :=
  if c.hasPair then pure (c.sessionToken?, .explicit)
  else do
    check c
    pure (some (← lookUp .token), .derived)

/-- A configured value, or else one that is looked up, which the keys are derived from then. -/
def configuredOr (configured : Option String) (origin : Origin) (field : KeyField) :
    Resolving (String × Origin) :=
  match configured with
  | some value => pure (value, origin)
  | none => do pure (← lookUp field, .derived)

/-- The keys, one after the other. -/
def keys (c : Credential) : Resolving SigningKeys := do
  let (token, origin) ← token c
  let (accessKeyId, origin) ← configuredOr c.username origin .accessKeyId
  let (secretKey, origin) ← configuredOr c.password origin .secretAccessKey
  pure ⟨accessKeyId, secretKey, SigningKeys.usableToken token, origin⟩

/-- The keys to sign with. -/
def resolve (r : Resolver) : Act (Except AuthError SigningKeys × Resolver) :=
  (keys r.credential).on r

end Resolver

end SaslClient
