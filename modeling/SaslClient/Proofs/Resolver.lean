import SaslClient.Except
import SaslClient.Resolver

/-!
# What resolving keys uses and gives

A resolver looks up the token, the access key id and the secret key one after the other, and takes
the key document out and puts it back every time. Once a look-up found a document, every other one
finds the same and leaves all as it is (`run_document_of_some`). So the look-ups of one call come to
one look-up of the document, from which the keys are completed at once (`resolve_eq_resolveOnce`).

Resolving then goes one of three ways, and the credential decides which: keys that are configured in
full are given at once, a configured token without them is refused, and everything else needs a key
document, which is fetched unless it was read before.

Main results:

* `run_document_of_some`, `run_document_of_none`: a look-up with a document and one without.
* `resolve_eq_resolveOnce`: all look-ups of a call come to one.
* `run_resolve_of_pair`, `run_resolve_of_token`, `run_resolve_of_fetch`: the three ways, with what
  they use of the surroundings.
* `usage_resolve`: a new resolver fetches exactly if the credential needs a key document.
* `sessionToken_ne_empty`: keys never carry an empty session token.
-/

namespace SaslClient

namespace Credential

theorem hasPair_eq_true_iff {c : Credential} :
    c.hasPair = true ↔
      ∃ username password, c.username = some username ∧ c.password = some password := by
  unfold hasPair
  rw [Bool.and_eq_true, Option.isSome_iff_exists, Option.isSome_iff_exists]
  constructor
  · rintro ⟨⟨username, hu⟩, ⟨password, hp⟩⟩
    exact ⟨username, password, hu, hp⟩
  · rintro ⟨username, password, hu, hp⟩
    exact ⟨⟨username, hu⟩, ⟨password, hp⟩⟩

theorem hasPair_eq_false_iff {c : Credential} :
    c.hasPair = false ↔ c.username = none ∨ c.password = none := by
  unfold hasPair
  cases c.username <;> cases c.password <;> simp

end Credential

namespace SigningKeys

/-- The keys that are configured in full. -/
def explicit? (c : Credential) : Option SigningKeys := do
  some ⟨← c.username, ← c.password, usableToken c.sessionToken?, .explicit⟩

/-- A configured value, or else one of a key document. -/
def configuredOr (configured : Option String) (d : Metadata.KeyDocument) (field : KeyField) :
    Except AuthError String :=
  match configured with
  | some value => .ok value
  | none => d.require field

/-- The keys that are completed from a key document. -/
def derive (c : Credential) (d : Metadata.KeyDocument) : Except AuthError SigningKeys := do
  let token ← d.require .token
  let accessKeyId ← configuredOr c.username d .accessKeyId
  let secretKey ← configuredOr c.password d .secretAccessKey
  .ok ⟨accessKeyId, secretKey, usableToken (some token), .derived⟩

theorem explicit?_of_pair {c : Credential} {username password : String}
    (hu : c.username = some username) (hp : c.password = some password) :
    explicit? c = some ⟨username, password, usableToken c.sessionToken?, .explicit⟩ := by
  unfold explicit?
  rw [hu, hp]
  rfl

theorem explicit?_of_not_pair {c : Credential} (h : c.hasPair = false) : explicit? c = none := by
  unfold explicit?
  rcases Credential.hasPair_eq_false_iff.mp h with hu | hp
  · rw [hu]; rfl
  · rw [hp]; cases c.username <;> rfl

/-- An empty token is not usable. -/
theorem usableToken_ne_empty (token : Option String) : usableToken token ≠ some "" := by
  intro h
  have hkept := (Option.filter_eq_some_iff.mp h).2
  exact absurd hkept (by decide)

end SigningKeys

namespace Resolver

open Resolving

/-- The key document that is served next. -/
def served (s : Surroundings) (u : Usage) : Except AuthError Metadata.KeyDocument :=
  (s.source u.fetches).bind Metadata.KeyDocument.parse

/-- The resolver after a key document was served, which it keeps if it could be read. -/
def keeping (r : Resolver) : Except AuthError Metadata.KeyDocument → Resolver
  | .ok d => { r with document? := some d }
  | .error _ => r

theorem check_eq_ok_iff {c : Credential} {a : Unit} :
    check c = .ok a ↔ c.sessionToken? = none ∨ c.hasPair = true := by
  unfold check
  cases c.sessionToken? <;> cases c.hasPair <;> simp

theorem check_eq_error_iff {c : Credential} {e : AuthError} :
    check c = .error e ↔
      c.sessionToken? ≠ none ∧ c.hasPair = false ∧ e = .config .tokenWithoutPair := by
  unfold check
  cases c.sessionToken? <;> cases c.hasPair <;> simp [eq_comm]

/-! ## Look-ups -/

theorem run_takeDocument (r : Resolver) (s : Surroundings) (u : Usage) :
    (takeDocument.on r).run s u = ((.ok r.document?, { r with document? := none }), u) := rfl

theorem run_takenOrFetched_none (r : Resolver) (s : Surroundings) (u : Usage) :
    ((takenOrFetched none).on r).run s u =
      ((served s u, r), { u with fetches := u.fetches + 1 }) := rfl

/-- A document that is there is taken out and put back. -/
theorem run_document_of_some {r : Resolver} {d : Metadata.KeyDocument} (h : r.document? = some d)
    (s : Surroundings) (u : Usage) : (document.on r).run s u = ((.ok d, r), u) := by
  obtain ⟨c, _⟩ := r
  cases h
  rfl

/-- Without a document one is fetched, and kept if it can be read. -/
theorem run_document_of_none {r : Resolver} (h : r.document? = none) (s : Surroundings)
    (u : Usage) :
    (document.on r).run s u =
      ((served s u, r.keeping (served s u)), { u with fetches := u.fetches + 1 }) := by
  obtain ⟨c, _⟩ := r
  cases h
  unfold document
  rw [run_on_bind_of_ok (run_takeDocument _ s u), run_on_bind, run_takenOrFetched_none]
  cases served s u <;> rfl

/-- The resolver keeps the document that was found. -/
theorem document?_of_run_document {r r' : Resolver} {d : Metadata.KeyDocument} {s : Surroundings}
    {u u' : Usage} (h : (document.on r).run s u = ((.ok d, r'), u')) : r'.document? = some d := by
  cases hd : r.document? with
  | some d' =>
    rw [run_document_of_some hd] at h
    cases h
    exact hd
  | none =>
    rw [run_document_of_none hd] at h
    cases hserved : served s u with
    | error e =>
      rw [hserved] at h
      cases h
    | ok d' =>
      rw [hserved] at h
      cases h
      rfl

@[simp] theorem credential_keeping (r : Resolver) (d : Except AuthError Metadata.KeyDocument) :
    (r.keeping d).credential = r.credential := by
  cases d <;> rfl

theorem credential_document (r : Resolver) (s : Surroundings) (u : Usage) :
    ((document.on r).run s u).1.2.credential = r.credential := by
  cases h : r.document? with
  | some d => rw [run_document_of_some h]
  | none => rw [run_document_of_none h, credential_keeping]

theorem run_lookUp (r : Resolver) (field : KeyField) (s : Surroundings) (u : Usage) :
    ((lookUp field).on r).run s u =
      let looked := (document.on r).run s u
      ((looked.1.1.bind (·.require field), looked.1.2), looked.2) := by
  unfold lookUp
  rw [run_on_bind]
  rcases (document.on r).run s u with ⟨⟨e | d, r'⟩, u'⟩ <;> rfl

/-! ## The look-ups of one call -/

section Call

variable {c : Credential}

theorem run_token_of_pair (hpair : c.hasPair = true) (r : Resolver) (s : Surroundings)
    (u : Usage) : ((token c).on r).run s u = ((.ok (c.sessionToken?, .explicit), r), u) := by
  unfold token
  rw [if_pos hpair]
  rfl

theorem run_token_of_refused (hpair : c.hasPair = false) {e : AuthError} (h : check c = .error e)
    (r : Resolver) (s : Surroundings) (u : Usage) :
    ((token c).on r).run s u = ((.error e, r), u) := by
  unfold token
  rw [if_neg (Bool.not_eq_true _ ▸ hpair), h]
  rfl

theorem run_token_of_checked (hpair : c.hasPair = false) (h : check c = .ok ()) (r : Resolver)
    (s : Surroundings) (u : Usage) :
    ((token c).on r).run s u =
      let looked := ((lookUp .token).on r).run s u
      ((looked.1.1.map fun token => (some token, .derived), looked.1.2), looked.2) := by
  unfold token
  rw [if_neg (Bool.not_eq_true _ ▸ hpair), h, run_on_bind_of_ok rfl, run_on_map]

/-- With a document that is there, a value that is not configured comes from it. -/
theorem run_configuredOr_of_some {r : Resolver} {d : Metadata.KeyDocument}
    (h : r.document? = some d) (configured : Option String) (field : KeyField) (s : Surroundings)
    (u : Usage) :
    ((configuredOr configured .derived field).on r).run s u =
      (((SigningKeys.configuredOr configured d field).map (·, .derived), r), u) := by
  cases configured with
  | some value => rfl
  | none =>
    unfold configuredOr
    rw [run_on_map, run_lookUp, run_document_of_some h]
    rfl

/-- Once the look-up of the token found a document, those of the other two find the same. -/
theorem run_keys_of_checked (hpair : c.hasPair = false) (h : check c = .ok ()) (r : Resolver)
    (s : Surroundings) (u : Usage) :
    ((keys c).on r).run s u =
      let looked := (document.on r).run s u
      ((looked.1.1.bind (SigningKeys.derive c), looked.1.2), looked.2) := by
  have htoken := run_token_of_checked hpair h r s u
  rw [run_lookUp] at htoken
  rcases hlooked : (document.on r).run s u with ⟨⟨e | d, r'⟩, u'⟩ <;> rw [hlooked] at htoken
  · exact run_on_bind_of_error htoken
  · have hd : r'.document? = some d := document?_of_run_document hlooked
    show _ = ((SigningKeys.derive c d, r'), u')
    refine run_on_bind_of_map htoken fun token => ?_
    refine run_on_bind_of_map (run_configuredOr_of_some hd c.username .accessKeyId s u')
      fun accessKeyId => ?_
    refine run_on_bind_of_map (run_configuredOr_of_some hd c.password .secretAccessKey s u')
      fun secretKey => ?_
    rfl

end Call

/-- Resolving with one look-up of the key document, from which the keys are completed at once. -/
def resolveOnce (r : Resolver) : Act (Except AuthError SigningKeys × Resolver) :=
  match SigningKeys.explicit? r.credential with
  | some keys => pure (.ok keys, r)
  | none =>
    match check r.credential with
    | .error e => pure (.error e, r)
    | .ok () => do
      let (document, r') ← document.on r
      pure (document.bind (SigningKeys.derive r.credential), r')

/-- However many look-ups a call makes, it gives, leaves and uses what a call with one does. -/
theorem resolve_eq_resolveOnce (r : Resolver) : r.resolve = r.resolveOnce := by
  funext s u
  show ((keys r.credential).on r).run s u = r.resolveOnce.run s u
  unfold resolveOnce
  cases hpair : r.credential.hasPair with
  | true =>
    obtain ⟨username, password, hu, hp⟩ := Credential.hasPair_eq_true_iff.mp hpair
    rw [SigningKeys.explicit?_of_pair hu hp]
    unfold keys
    rw [run_on_bind_of_ok (run_token_of_pair hpair r s u), hu, hp]
    rfl
  | false =>
    rw [SigningKeys.explicit?_of_not_pair hpair]
    cases hcheck : check r.credential with
    | error e => exact run_on_bind_of_error (run_token_of_refused hpair hcheck r s u)
    | ok _ => exact run_keys_of_checked hpair hcheck r s u

/-! ## The three ways -/

theorem run_resolve_of_pair {r : Resolver} {username password : String}
    (hu : r.credential.username = some username) (hp : r.credential.password = some password)
    (s : Surroundings) (u : Usage) :
    r.resolve.run s u =
      ((.ok ⟨username, password, SigningKeys.usableToken r.credential.sessionToken?, .explicit⟩, r),
        u) := by
  rw [resolve_eq_resolveOnce, resolveOnce, SigningKeys.explicit?_of_pair hu hp]
  rfl

theorem run_resolve_of_token {r : Resolver} (hpair : r.credential.hasPair = false)
    (htoken : r.credential.sessionToken? ≠ none) (s : Surroundings) (u : Usage) :
    r.resolve.run s u = ((.error (.config .tokenWithoutPair), r), u) := by
  rw [resolve_eq_resolveOnce, resolveOnce, SigningKeys.explicit?_of_not_pair hpair,
    check_eq_error_iff.mpr ⟨htoken, hpair, rfl⟩]
  rfl

/-- Without a pair and without a token, the keys are completed from a key document. -/
theorem run_resolve_of_document {r : Resolver} (hpair : r.credential.hasPair = false)
    (htoken : r.credential.sessionToken? = none) (s : Surroundings) (u : Usage) :
    r.resolve.run s u =
      let looked := (document.on r).run s u
      ((looked.1.1.bind (SigningKeys.derive r.credential), looked.1.2), looked.2) := by
  have hcheck : check r.credential = .ok () := check_eq_ok_iff.mpr (.inl htoken)
  rw [resolve_eq_resolveOnce, resolveOnce, SigningKeys.explicit?_of_not_pair hpair, hcheck]
  rfl

theorem run_resolve_of_fetch {r : Resolver} (hpair : r.credential.hasPair = false)
    (htoken : r.credential.sessionToken? = none) (hnew : r.document? = none) (s : Surroundings)
    (u : Usage) :
    r.resolve.run s u =
      (((served s u).bind (SigningKeys.derive r.credential), r.keeping (served s u)),
        { u with fetches := u.fetches + 1 }) := by
  rw [run_resolve_of_document hpair htoken, run_document_of_none hnew]

/-- Resolving leaves the credential as it is. -/
theorem credential_resolve (r : Resolver) (s : Surroundings) (u : Usage) :
    (r.resolve.run s u).1.2.credential = r.credential := by
  cases hpair : r.credential.hasPair with
  | true =>
    obtain ⟨username, password, hu, hp⟩ := Credential.hasPair_eq_true_iff.mp hpair
    rw [run_resolve_of_pair hu hp]
  | false =>
    by_cases htoken : r.credential.sessionToken? = none
    · rw [run_resolve_of_document hpair htoken, credential_document]
    · rw [run_resolve_of_token hpair htoken]

/-! ## What resolving uses -/

/-- The keys of a credential come from a key document. -/
def NeedsDocument (c : Credential) : Prop :=
  (c.username = none ∨ c.password = none) ∧ c.property? "AWS_SESSION_TOKEN" = none

instance (c : Credential) : Decidable (NeedsDocument c) :=
  inferInstanceAs (Decidable (_ ∧ _))

theorem needsDocument_iff {c : Credential} :
    NeedsDocument c ↔ c.hasPair = false ∧ c.sessionToken? = none := by
  rw [Credential.hasPair_eq_false_iff]
  rfl

/-- A new resolver fetches exactly if the credential needs a key document, and then once. Nothing
else of the surroundings is used. -/
theorem usage_resolve (c : Credential) (s : Surroundings) (u : Usage) :
    (({ credential := c } : Resolver).resolve.run s u).2 =
      if NeedsDocument c then { u with fetches := u.fetches + 1 } else u := by
  cases hpair : c.hasPair with
  | true =>
    obtain ⟨username, password, hu, hp⟩ := Credential.hasPair_eq_true_iff.mp hpair
    have hneeds : ¬ NeedsDocument c := by
      rw [needsDocument_iff, hpair]
      simp
    rw [if_neg hneeds, run_resolve_of_pair hu hp]
  | false =>
    by_cases htoken : c.sessionToken? = none
    · rw [if_pos (needsDocument_iff.mpr ⟨hpair, htoken⟩), run_resolve_of_fetch hpair htoken rfl]
    · have hneeds : ¬ NeedsDocument c := by
        rw [needsDocument_iff]
        exact fun h => htoken h.2
      rw [if_neg hneeds, run_resolve_of_token hpair htoken]

theorem clockReads_resolve (c : Credential) (s : Surroundings) (u : Usage) :
    (({ credential := c } : Resolver).resolve.run s u).2.clockReads = u.clockReads := by
  rw [usage_resolve]
  split <;> rfl

/-- Any resolver fetches once or not at all. -/
theorem usage_resolve_or (r : Resolver) (s : Surroundings) (u : Usage) :
    (r.resolve.run s u).2 = u ∨ (r.resolve.run s u).2 = { u with fetches := u.fetches + 1 } := by
  cases hpair : r.credential.hasPair with
  | true =>
    obtain ⟨username, password, hu, hp⟩ := Credential.hasPair_eq_true_iff.mp hpair
    rw [run_resolve_of_pair hu hp]
    exact .inl rfl
  | false =>
    by_cases htoken : r.credential.sessionToken? = none
    · rw [run_resolve_of_document hpair htoken]
      cases hdocument : r.document? with
      | some d =>
        rw [run_document_of_some hdocument]
        exact .inl rfl
      | none =>
        rw [run_document_of_none hdocument]
        exact .inr rfl
    · rw [run_resolve_of_token hpair htoken]
      exact .inl rfl

/-- A resolver gives keys only for a credential that is not refused. -/
theorem check_of_resolve {r : Resolver} {s : Surroundings} {u : Usage} {keys : SigningKeys}
    (h : (r.resolve.run s u).1.1 = .ok keys) : check r.credential = .ok () := by
  rw [check_eq_ok_iff]
  by_cases htoken : r.credential.sessionToken? = none
  · exact .inl htoken
  · refine .inr (Bool.of_not_eq_false fun hpair => ?_)
    rw [run_resolve_of_token hpair htoken] at h
    cases h

/-- What a new resolver gives depends on the next key document and on nothing else that was used. -/
theorem outcome_resolve_of_fetches (c : Credential) (s : Surroundings) {u u' : Usage}
    (h : u'.fetches = u.fetches) :
    (({ credential := c } : Resolver).resolve.run s u').1 =
      (({ credential := c } : Resolver).resolve.run s u).1 := by
  cases hpair : c.hasPair with
  | true =>
    obtain ⟨username, password, hu, hp⟩ := Credential.hasPair_eq_true_iff.mp hpair
    rw [run_resolve_of_pair hu hp, run_resolve_of_pair hu hp]
  | false =>
    by_cases htoken : c.sessionToken? = none
    · have hserved : served s u' = served s u := by
        unfold served
        rw [h]
      rw [run_resolve_of_fetch hpair htoken rfl, run_resolve_of_fetch hpair htoken rfl, hserved]
    · rw [run_resolve_of_token hpair htoken, run_resolve_of_token hpair htoken]

/-! ## The session token -/

theorem sessionToken_derive_ne_empty {c : Credential} {d : Metadata.KeyDocument}
    {keys : SigningKeys} (h : SigningKeys.derive c d = .ok keys) : keys.sessionToken ≠ some "" := by
  unfold SigningKeys.derive at h
  obtain ⟨token, -, h⟩ := Except.bind_eq_ok_iff.mp h
  obtain ⟨accessKeyId, -, h⟩ := Except.bind_eq_ok_iff.mp h
  obtain ⟨secretKey, -, h⟩ := Except.bind_eq_ok_iff.mp h
  cases h
  show SigningKeys.usableToken (some token) ≠ some ""
  exact SigningKeys.usableToken_ne_empty _

/-- Resolved keys never carry an empty session token. -/
theorem sessionToken_ne_empty {r : Resolver} {s : Surroundings} {u : Usage} {keys : SigningKeys}
    (h : (r.resolve.run s u).1.1 = .ok keys) : keys.sessionToken ≠ some "" := by
  cases hpair : r.credential.hasPair with
  | true =>
    obtain ⟨username, password, hu, hp⟩ := Credential.hasPair_eq_true_iff.mp hpair
    rw [run_resolve_of_pair hu hp] at h
    cases h
    exact SigningKeys.usableToken_ne_empty _
  | false =>
    by_cases htoken : r.credential.sessionToken? = none
    · rw [run_resolve_of_document hpair htoken] at h
      obtain ⟨d, -, hd⟩ := Except.bind_eq_ok_iff.mp h
      exact sessionToken_derive_ne_empty hd
    · rw [run_resolve_of_token hpair htoken] at h
      cases h

end Resolver

end SaslClient
