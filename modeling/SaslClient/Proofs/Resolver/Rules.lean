import SaslClient.Proofs.Metadata.KeyDocument
import SaslClient.Proofs.Resolver

/-!
# The rules of resolving

Which keys a new resolver gives, and which error instead, said by one rule for each outcome. A rule
looks at what is configured and at what the source answers, and its premises exclude those of the
rules before it, so the order of the rules is the order in which errors are reported.

Main results:

* `Rule.total`: for every credential and every answer some rule applies.
* `resolve_of_rule`: a new resolver gives what the rule says.
* `resolve_follows_rules`: the rules are all there is to resolving; no key that is configured is
  taken from elsewhere, and no configured token goes with keys that are served.
-/

namespace SaslClient

/-- A token, unless it is empty. -/
def SigningKeys.unlessEmpty (token : Option String) : Option String :=
  if token = some "" then none else token

theorem SigningKeys.usableToken_eq_unlessEmpty (token : Option String) :
    usableToken token = unlessEmpty token := by
  cases token with
  | none => rfl
  | some t =>
    by_cases h : t = ""
    · subst h
      rfl
    · simp [usableToken, unlessEmpty, h]

namespace Metadata

/-- The source answers with a document that can be read, and serves it at this endpoint. -/
def Gives (answer : Except AuthError Answer) (endpoint : String) (d : KeyDocument) : Prop :=
  ∃ body, answer = .ok ⟨endpoint, body⟩ ∧ KeyDocument.parse ⟨endpoint, body⟩ = .ok d

/-- The source answers at this endpoint with a body that is no key document, for this fault. -/
def Garbles (answer : Except AuthError Answer) (endpoint : String) (category : Json.Category)
    (location : Json.Location) : Prop :=
  ∃ body, answer = .ok ⟨endpoint, body⟩ ∧
    Json.parseRecord (KeyDocument.shape endpoint) body = .error (category, location)

/-- A source fails, or answers with a key document, or with something else. -/
theorem fails_or_gives_or_garbles (answer : Except AuthError Answer) :
    (∃ e, answer = .error e) ∨ (∃ endpoint d, Gives answer endpoint d) ∨
      ∃ endpoint category location, Garbles answer endpoint category location := by
  cases answer with
  | error e => exact .inl ⟨e, rfl⟩
  | ok a =>
    obtain ⟨endpoint, body⟩ := a
    cases hparse : Json.parseRecord (KeyDocument.shape endpoint) body with
    | error fault => exact .inr (.inr ⟨endpoint, fault.1, fault.2, body, rfl, hparse⟩)
    | ok d =>
      refine .inr (.inl ⟨endpoint, d, body, rfl, ?_⟩)
      rw [KeyDocument.parse, hparse]
      rfl

end Metadata

/-! ## Completing keys -/

namespace SigningKeys

variable {c : Credential} {d : Metadata.KeyDocument}

theorem configuredOr_of_some (configured : Option String) (d : Metadata.KeyDocument)
    (field : KeyField) {value : String} (h : configured.or (d.value? field) = some value) :
    configuredOr configured d field = .ok value := by
  cases configured with
  | some _ =>
    cases h
    rfl
  | none => exact d.require_of_some field h

theorem configuredOr_of_none (configured : Option String) (d : Metadata.KeyDocument)
    (field : KeyField) (h : configured.or (d.value? field) = none) :
    configuredOr configured d field =
      .error (.credentialSource d.endpoint (.missingField field)) := by
  obtain ⟨rfl, h⟩ := Option.or_eq_none_iff.mp h
  exact d.require_of_none field h

theorem derive_of_noToken (ht : d.token = none) :
    derive c d = .error (.credentialSource d.endpoint (.missingField .token)) := by
  rw [derive, d.require_of_none .token ht, Except.error_bind]

theorem derive_of_noAccessKeyId {token : String} (ht : d.token = some token)
    (hid : c.username.or d.accessKeyId = none) :
    derive c d = .error (.credentialSource d.endpoint (.missingField .accessKeyId)) := by
  rw [derive, d.require_of_some .token ht, Except.ok_bind,
    configuredOr_of_none c.username d .accessKeyId hid, Except.error_bind]

theorem derive_of_noSecretKey {token accessKeyId : String} (ht : d.token = some token)
    (hid : c.username.or d.accessKeyId = some accessKeyId)
    (hkey : c.password.or d.secretAccessKey = none) :
    derive c d = .error (.credentialSource d.endpoint (.missingField .secretAccessKey)) := by
  rw [derive, d.require_of_some .token ht, Except.ok_bind,
    configuredOr_of_some c.username d .accessKeyId hid, Except.ok_bind,
    configuredOr_of_none c.password d .secretAccessKey hkey, Except.error_bind]

theorem derive_of_all {token accessKeyId secretKey : String} (ht : d.token = some token)
    (hid : c.username.or d.accessKeyId = some accessKeyId)
    (hkey : c.password.or d.secretAccessKey = some secretKey) :
    derive c d = .ok ⟨accessKeyId, secretKey, usableToken (some token), .derived⟩ := by
  rw [derive, d.require_of_some .token ht, Except.ok_bind,
    configuredOr_of_some c.username d .accessKeyId hid, Except.ok_bind,
    configuredOr_of_some c.password d .secretAccessKey hkey, Except.ok_bind]

end SigningKeys

/-! ## Rules -/

namespace Resolver

open Metadata (Gives Garbles)

/-- What becomes of resolving the keys of a credential when the source would answer like this. -/
inductive Rule (c : Credential) (answer : Except AuthError Metadata.Answer) :
    Except AuthError SigningKeys → Prop
  /-- Username and password are configured: the source plays no part. -/
  | configured {username password : String} (username_eq : c.username = some username)
      (password_eq : c.password = some password) :
      Rule c answer (.ok ⟨username, password,
        SigningKeys.unlessEmpty (c.property? "AWS_SESSION_TOKEN"), .explicit⟩)
  /-- A token is configured, be it empty, but not both of the others. -/
  | tokenAlone {token : String} (lacking : c.username = none ∨ c.password = none)
      (token_eq : c.property? "AWS_SESSION_TOKEN" = some token) :
      Rule c answer (.error (.config .tokenWithoutPair))
  /-- The source fails. -/
  | unserved {e : AuthError} (needs : NeedsDocument c) (fails : answer = .error e) :
      Rule c answer (.error e)
  /-- The source serves something else than a key document. -/
  | garbled {endpoint : String} {category : Json.Category} {location : Json.Location}
      (needs : NeedsDocument c) (garbles : Garbles answer endpoint category location) :
      Rule c answer (.error (.credentialSource endpoint (.malformed category location)))
  /-- The document has no token, not even an empty one. -/
  | noToken {endpoint : String} {d : Metadata.KeyDocument} (needs : NeedsDocument c)
      (gives : Gives answer endpoint d) (token_eq : d.token = none) :
      Rule c answer (.error (.credentialSource endpoint (.missingField .token)))
  /-- An access key id is neither configured nor in the document. -/
  | noAccessKeyId {endpoint : String} {d : Metadata.KeyDocument} {token : String}
      (needs : NeedsDocument c) (gives : Gives answer endpoint d) (token_eq : d.token = some token)
      (username_eq : c.username = none) (accessKeyId_eq : d.accessKeyId = none) :
      Rule c answer (.error (.credentialSource endpoint (.missingField .accessKeyId)))
  /-- An access key id is there, but a secret key is neither configured nor in the document. -/
  | noSecretKey {endpoint : String} {d : Metadata.KeyDocument} {token accessKeyId : String}
      (needs : NeedsDocument c) (gives : Gives answer endpoint d) (token_eq : d.token = some token)
      (accessKeyId_eq : c.username.or d.accessKeyId = some accessKeyId)
      (password_eq : c.password = none) (secretAccessKey_eq : d.secretAccessKey = none) :
      Rule c answer (.error (.credentialSource endpoint (.missingField .secretAccessKey)))
  /-- What is configured is completed from the document. -/
  | completed {endpoint : String} {d : Metadata.KeyDocument} {accessKeyId secretKey token : String}
      (needs : NeedsDocument c) (gives : Gives answer endpoint d) (token_eq : d.token = some token)
      (accessKeyId_eq : c.username.or d.accessKeyId = some accessKeyId)
      (secretKey_eq : c.password.or d.secretAccessKey = some secretKey) :
      Rule c answer (.ok ⟨accessKeyId, secretKey, SigningKeys.unlessEmpty (some token), .derived⟩)

variable {c : Credential} {answer : Except AuthError Metadata.Answer}

/-- For every credential and every answer some rule applies. -/
theorem Rule.total (c : Credential) (answer : Except AuthError Metadata.Answer) :
    ∃ outcome, Rule c answer outcome := by
  by_cases hneeds : NeedsDocument c
  · rcases Metadata.fails_or_gives_or_garbles answer with
      ⟨e, he⟩ | ⟨endpoint, d, hgives⟩ | ⟨endpoint, category, location, hgarbles⟩
    · exact ⟨_, .unserved hneeds he⟩
    · -- the three fields in the order in which they are asked for
      cases htoken : d.token with
      | none => exact ⟨_, .noToken hneeds hgives htoken⟩
      | some token =>
        cases hid : c.username.or d.accessKeyId with
        | none =>
          obtain ⟨hu, hid⟩ := Option.or_eq_none_iff.mp hid
          exact ⟨_, .noAccessKeyId hneeds hgives htoken hu hid⟩
        | some accessKeyId =>
          cases hkey : c.password.or d.secretAccessKey with
          | none =>
            obtain ⟨hp, hkey⟩ := Option.or_eq_none_iff.mp hkey
            exact ⟨_, .noSecretKey hneeds hgives htoken hid hp hkey⟩
          | some secretKey => exact ⟨_, .completed hneeds hgives htoken hid hkey⟩
    · exact ⟨_, .garbled hneeds hgarbles⟩
  · cases hu : c.username with
    | none =>
      obtain ⟨token, htoken⟩ := Option.ne_none_iff_exists'.mp fun h => hneeds ⟨.inl hu, h⟩
      exact ⟨_, .tokenAlone (.inl hu) htoken⟩
    | some username =>
      cases hp : c.password with
      | none =>
        obtain ⟨token, htoken⟩ := Option.ne_none_iff_exists'.mp fun h => hneeds ⟨.inr hp, h⟩
        exact ⟨_, .tokenAlone (.inr hp) htoken⟩
      | some password => exact ⟨_, .configured hu hp⟩

/-! ## What the rules say -/

theorem served_of_gives {s : Surroundings} {u : Usage} {endpoint : String}
    {d : Metadata.KeyDocument} (h : Gives (s.source u.fetches) endpoint d) :
    served s u = .ok d ∧ d.endpoint = endpoint := by
  obtain ⟨body, hanswer, hparse⟩ := h
  refine ⟨?_, Metadata.KeyDocument.endpoint_of_parse hparse⟩
  rw [served, hanswer]
  exact hparse

theorem served_of_garbles {s : Surroundings} {u : Usage} {endpoint : String}
    {category : Json.Category} {location : Json.Location}
    (h : Garbles (s.source u.fetches) endpoint category location) :
    served s u = .error (.credentialSource endpoint (.malformed category location)) := by
  obtain ⟨body, hanswer, hparse⟩ := h
  rw [served, hanswer]
  show Metadata.KeyDocument.parse ⟨endpoint, body⟩ = _
  rw [Metadata.KeyDocument.parse, hparse]
  rfl

/-- A new resolver gives what a rule says. -/
theorem resolve_of_rule {s : Surroundings} {u : Usage} {outcome : Except AuthError SigningKeys}
    (h : Rule c (s.source u.fetches) outcome) :
    (({ credential := c } : Resolver).resolve.run s u).1.1 = outcome := by
  -- a rule that needs the document gives what deriving from the served one gives
  have hderive (hneeds : NeedsDocument c) :
      (({ credential := c } : Resolver).resolve.run s u).1.1 =
        (served s u).bind (SigningKeys.derive c) := by
    obtain ⟨hpair, htoken⟩ := needsDocument_iff.mp hneeds
    rw [run_resolve_of_fetch hpair htoken rfl]
  cases h with
  | configured hu hp =>
    rw [run_resolve_of_pair hu hp, SigningKeys.usableToken_eq_unlessEmpty]
    rfl
  | tokenAlone hlacking htoken =>
    have hset : c.sessionToken? ≠ none := Option.ne_none_iff_exists'.mpr ⟨_, htoken⟩
    rw [run_resolve_of_token (Credential.hasPair_eq_false_iff.mpr hlacking) hset]
  | unserved hneeds hfails =>
    rw [hderive hneeds, served, hfails]
    rfl
  | garbled hneeds hgarbles =>
    rw [hderive hneeds, served_of_garbles hgarbles]
    rfl
  | noToken hneeds hgives htoken =>
    obtain ⟨hserved, rfl⟩ := served_of_gives hgives
    rw [hderive hneeds, hserved]
    exact SigningKeys.derive_of_noToken htoken
  | noAccessKeyId hneeds hgives htoken hu hid =>
    obtain ⟨hserved, rfl⟩ := served_of_gives hgives
    rw [hderive hneeds, hserved]
    exact SigningKeys.derive_of_noAccessKeyId htoken (Option.or_eq_none_iff.mpr ⟨hu, hid⟩)
  | noSecretKey hneeds hgives htoken hid hp hkey =>
    obtain ⟨hserved, rfl⟩ := served_of_gives hgives
    rw [hderive hneeds, hserved]
    exact SigningKeys.derive_of_noSecretKey htoken hid (Option.or_eq_none_iff.mpr ⟨hp, hkey⟩)
  | completed hneeds hgives htoken hid hkey =>
    obtain ⟨hserved, rfl⟩ := served_of_gives hgives
    rw [hderive hneeds, hserved, ← SigningKeys.usableToken_eq_unlessEmpty]
    exact SigningKeys.derive_of_all htoken hid hkey

/-! ## Configured values -/

theorem Rule.accessKeyId_eq {keys : SigningKeys} (h : Rule c answer (.ok keys)) {username : String}
    (hu : c.username = some username) : keys.accessKeyId = username := by
  cases h with
  | configured hu' _ => exact Option.some.inj (hu'.symm.trans hu)
  | completed _ _ _ hid _ =>
    rw [hu, Option.some_or] at hid
    exact (Option.some.inj hid).symm

theorem Rule.secretKey_eq {keys : SigningKeys} (h : Rule c answer (.ok keys)) {password : String}
    (hp : c.password = some password) : keys.secretKey = password := by
  cases h with
  | configured _ hp' => exact Option.some.inj (hp'.symm.trans hp)
  | completed _ _ _ _ hkey =>
    rw [hp, Option.some_or] at hkey
    exact (Option.some.inj hkey).symm

/-- A configured token goes with keys that are configured in full, and with no others. -/
theorem Rule.configured_of_token {keys : SigningKeys} (h : Rule c answer (.ok keys))
    {token : String} (htoken : c.property? "AWS_SESSION_TOKEN" = some token) :
    c.username = some keys.accessKeyId ∧ c.password = some keys.secretKey ∧
      keys.sessionToken = SigningKeys.unlessEmpty (some token) ∧ keys.origin = .explicit := by
  cases h with
  | configured hu hp => exact ⟨hu, hp, congrArg SigningKeys.unlessEmpty htoken, rfl⟩
  | completed hneeds =>
    have hnone := hneeds.2
    rw [htoken] at hnone
    cases hnone

/-- **Resolving follows the rules.** What a new resolver gives, and which error instead, is what the
rules say for its credential and the next answer of the source, and nothing else. It asks the source
once if the credential needs a key document, and otherwise not at all. No username or password that
is configured is replaced by one from the document, and a token that is configured never goes with
keys that come from there. Documents with any fields, empty or missing, can be served. -/
theorem resolve_follows_rules (c : Credential) (s : Surroundings) (u : Usage) :
    let run := ({ credential := c } : Resolver).resolve.run s u
    (∀ outcome, run.1.1 = outcome ↔ Rule c (s.source u.fetches) outcome) ∧
    run.2 = (if NeedsDocument c then { u with fetches := u.fetches + 1 } else u) ∧
    (∀ keys, run.1.1 = .ok keys →
      (∀ username, c.username = some username → keys.accessKeyId = username) ∧
      (∀ password, c.password = some password → keys.secretKey = password) ∧
      (∀ token, c.property? "AWS_SESSION_TOKEN" = some token →
        c.username = some keys.accessKeyId ∧ c.password = some keys.secretKey ∧
          keys.sessionToken = SigningKeys.unlessEmpty (some token) ∧ keys.origin = .explicit)) ∧
    ∀ d : Metadata.KeyDocument, ∃ body, Gives (.ok ⟨d.endpoint, body⟩) d.endpoint d := by
  intro run
  obtain ⟨result, hrule⟩ := Rule.total c (s.source u.fetches)
  have hresult : run.1.1 = result := resolve_of_rule hrule
  refine ⟨fun outcome => ⟨?_, resolve_of_rule⟩, usage_resolve c s u, ?_, ?_⟩
  · rintro rfl
    exact hresult ▸ hrule
  · intro keys hkeys
    have hkeys : Rule c (s.source u.fetches) (.ok keys) := by
      rw [← hkeys, hresult]
      exact hrule
    exact ⟨fun _ => hkeys.accessKeyId_eq, fun _ => hkeys.secretKey_eq,
      fun _ => hkeys.configured_of_token⟩
  · exact fun d => ⟨d.text, d.text, rfl, d.parse_text⟩

end Resolver

end SaslClient
