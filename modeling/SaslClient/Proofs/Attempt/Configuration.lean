import SaslClient.Proofs.Attempt
import SaslClient.Proofs.Conversation.Credential
import SaslClient.Proofs.Metadata.Client

/-!
# Configuration errors come first

What can be wrong with a configuration is checked when a conversation is created, before there is
any activity. The same checks are met again later, when keys are resolved and when the plain message
is made; behind a conversation that could be created they never fail.

The configuration errors of each part of an attempt are bounded by `ConfigErrorsIn`. The parts of
the client itself allow none, so those that are left come from the transport or from the source of
key documents, and a metadata client is no source of them either.

Main results:

* `ofCredential_isOk_iff`: the configurations that can work.
* `configErrorsIn_resolve`, `configErrorsIn_evaluate`: what a well configured conversation can fail
  with.
* `config_errors_first`: configuration errors end an attempt before any activity, and only then.
-/

namespace SaslClient

/-! ## Bounds on configuration errors -/

section Bounds

variable {α β : Type} {allowed : AuthError → Prop}

/-- The result is no configuration error but an allowed one. -/
def ConfigErrorsIn (allowed : AuthError → Prop) (x : Except AuthError α) : Prop :=
  ∀ e, x = .error e → e.isConfig = true → allowed e

theorem configErrorsIn_ok (a : α) : ConfigErrorsIn allowed (.ok a : Except AuthError α) :=
  nofun

theorem configErrorsIn_error {e : AuthError} (h : e.isConfig = true → allowed e) :
    ConfigErrorsIn allowed (.error e : Except AuthError α) := by
  rintro _ ⟨⟩
  exact h

/-- Errors of another kind are no configuration errors. -/
theorem configErrorsIn_mapError {ε : Type} {f : ε → AuthError} (hf : ∀ e, (f e).isConfig = false)
    (x : Except ε α) : ConfigErrorsIn allowed (x.mapError f) := by
  intro _ hx hconfig
  obtain ⟨e, -, rfl⟩ := Except.mapError_eq_error_iff.mp hx
  rw [hf e] at hconfig
  cases hconfig

theorem ConfigErrorsIn.bind {x : Except AuthError α} {f : α → Except AuthError β}
    (hx : ConfigErrorsIn allowed x) (hf : ∀ a, ConfigErrorsIn allowed (f a)) :
    ConfigErrorsIn allowed (x >>= f) := by
  intro e h hconfig
  rcases Except.bind_eq_error_iff.mp h with herror | ⟨a, -, herror⟩
  · exact hx e herror hconfig
  · exact hf a e herror hconfig

theorem ConfigErrorsIn.map {x : Except AuthError α} (hx : ConfigErrorsIn allowed x) (f : α → β) :
    ConfigErrorsIn allowed (x.map f) :=
  fun e h hconfig => hx e (Except.map_eq_error_iff.mp h) hconfig

end Bounds

/-! ## Key documents -/

namespace Metadata

theorem KeyDocument.configErrorsIn_parse {allowed : AuthError → Prop} (answer : Answer) :
    ConfigErrorsIn allowed (parse answer) :=
  configErrorsIn_mapError (fun _ => rfl) _

theorem KeyDocument.configErrorsIn_require {allowed : AuthError → Prop} (d : KeyDocument)
    (field : KeyField) : ConfigErrorsIn allowed (d.require field) := by
  unfold require
  cases d.value? field with
  | some value => exact configErrorsIn_ok value
  | none => exact configErrorsIn_error nofun

/-- A metadata client reports nothing of a configuration. -/
theorem Client.isConfig_fetch {client : Client} {network : Http.Network} {e : AuthError}
    (h : (client.fetch network).result = .error e) : e.isConfig = false := by
  obtain ⟨address, fault, -, rfl⟩ := fetch_eq_error h
  rfl

end Metadata

/-! ## Resolving -/

theorem SigningKeys.configErrorsIn_derive {allowed : AuthError → Prop} (c : Credential)
    (d : Metadata.KeyDocument) : ConfigErrorsIn allowed (derive c d) := by
  have hconfiguredOr (configured : Option String) (field : KeyField) :
      ConfigErrorsIn allowed (configuredOr configured d field) := by
    cases configured with
    | some value => exact configErrorsIn_ok value
    | none => exact d.configErrorsIn_require field
  refine (d.configErrorsIn_require _).bind fun token => ?_
  refine (hconfiguredOr _ _).bind fun accessKeyId => ?_
  refine (hconfiguredOr _ _).bind fun secretKey => ?_
  exact configErrorsIn_ok _

namespace Resolver

/-- The error of the next fetch. -/
def FetchFails (s : Surroundings) (u : Usage) (e : AuthError) : Prop :=
  s.source u.fetches = .error e

theorem configErrorsIn_served (s : Surroundings) (u : Usage) :
    ConfigErrorsIn (FetchFails s u) (served s u) :=
  ConfigErrorsIn.bind (fun _ h _ => h) Metadata.KeyDocument.configErrorsIn_parse

theorem configErrorsIn_document (r : Resolver) (s : Surroundings) (u : Usage) :
    ConfigErrorsIn (FetchFails s u) ((document.on r).run s u).1.1 := by
  cases h : r.document? with
  | some d =>
    rw [run_document_of_some h]
    exact configErrorsIn_ok d
  | none =>
    rw [run_document_of_none h]
    exact configErrorsIn_served s u

/-- A resolver whose credential passed the check refuses no configuration of its own. -/
theorem configErrorsIn_resolve {r : Resolver} (h : check r.credential = .ok ()) (s : Surroundings)
    (u : Usage) : ConfigErrorsIn (FetchFails s u) (r.resolve.run s u).1.1 := by
  cases hpair : r.credential.hasPair with
  | true =>
    obtain ⟨username, password, hu, hp⟩ := Credential.hasPair_eq_true_iff.mp hpair
    rw [run_resolve_of_pair hu hp]
    exact configErrorsIn_ok _
  | false =>
    -- without a pair, what passed the check has no token
    rcases check_eq_ok_iff.mp h with htoken | habsurd
    · rw [run_resolve_of_document hpair htoken]
      exact (configErrorsIn_document r s u).bind fun d => SigningKeys.configErrorsIn_derive _ d
    · rw [hpair] at habsurd
      cases habsurd

end Resolver

/-! ## Conversations -/

namespace Conversation

open Resolver (FetchFails)

theorem ServerFirst.Refused.isConfig {n : Nonce} {challenge : Bytes} {e : AuthError}
    (h : ServerFirst.Refused n challenge e) : e.isConfig = false := by
  cases h <;> rfl

theorem Iam.configErrorsIn_finalDocument {allowed : AuthError → Prop} (keys : SigningKeys)
    (first : ServerFirst) (timestamp : String) :
    ConfigErrorsIn allowed (finalDocument keys first timestamp) := by
  rw [finalDocument_eq]
  exact (configErrorsIn_mapError (fun _ => rfl) _).map _

theorem Iam.configErrorsIn_answer {r : Resolver} (h : Resolver.check r.credential = .ok ())
    (n : Nonce) (challenge : Bytes) (s : Surroundings) (u : Usage) :
    ConfigErrorsIn (FetchFails s u) ((answer r n challenge).run s u).1.1 := by
  rcases ServerFirst.accepted_or_refused n challenge with ⟨first, haccepted⟩ | ⟨e, hrefused⟩
  · have hresolve := Resolver.configErrorsIn_resolve h s u
    cases hkeys : (r.resolve.run s u).1.1 with
    | error e =>
      rw [run_answer_of_unresolved haccepted hkeys]
      exact configErrorsIn_error (hresolve e hkeys)
    | ok keys =>
      rw [run_answer_of_resolved haccepted hkeys]
      exact (configErrorsIn_finalDocument keys first _).map _
  · rw [run_answer_of_refused hrefused]
    refine configErrorsIn_error fun hconfig => ?_
    rw [hrefused.isConfig] at hconfig
    cases hconfig

/-- What is checked when a conversation is created is true of its credential. -/
def WellConfigured : Conversation → Prop
  | .iam i => Resolver.check i.resolver.credential = .ok ()
  | .plain p => Plain.check p.credential = .ok ()

theorem wellConfigured_ofCredential {c : Credential} {conversation : Conversation}
    (h : ofCredential c = .ok conversation) : conversation.WellConfigured := by
  rcases ofCredential_eq_ok_iff.mp h with ⟨-, hcheck, rfl⟩ | ⟨-, hcheck, rfl⟩
  · exact hcheck
  · exact hcheck

/-- A well configured conversation stays so. -/
theorem WellConfigured.evaluate {c : Conversation} (h : c.WellConfigured) (challenge : Bytes)
    (s : Surroundings) (u : Usage) : ((c.evaluate challenge).run s u).1.2.WellConfigured := by
  cases c with
  | iam i =>
    show Resolver.check ((i.evaluate challenge).run s u).1.2.resolver.credential = .ok ()
    rw [Iam.credential_evaluate]
    exact h
  | plain p =>
    show Plain.check p.evaluate.2.credential = .ok ()
    rw [Plain.credential_evaluate]
    exact h

theorem Iam.configErrorsIn_evaluate {i : Iam}
    (h : Resolver.check i.resolver.credential = .ok ()) (challenge : Bytes) (s : Surroundings)
    (u : Usage) : ConfigErrorsIn (FetchFails s u) ((i.evaluate challenge).run s u).1.1 := by
  cases hphase : i.phase with
  | notStarted =>
    unfold evaluate
    rw [hphase]
    exact configErrorsIn_ok _
  | awaitingServerFirst n =>
    rw [run_evaluate_awaiting hphase]
    exact configErrorsIn_answer h n challenge s u
  | complete =>
    rw [run_evaluate_complete hphase]
    exact configErrorsIn_error nofun
  | failed =>
    rw [run_evaluate_failed hphase]
    exact configErrorsIn_error nofun

theorem Plain.configErrorsIn_evaluate {allowed : AuthError → Prop} {p : Plain}
    (h : Plain.check p.credential = .ok ()) : ConfigErrorsIn allowed p.evaluate.1 := by
  obtain ⟨username, password, hu, hp⟩ := Plain.check_eq_ok_iff.mp h
  unfold evaluate
  cases p.phase with
  | notStarted =>
    unfold message
    rw [hu, hp]
    exact configErrorsIn_ok _
  | complete => exact configErrorsIn_error nofun
  | failed => exact configErrorsIn_error nofun

/-- The mechanisms and the resolver report no configuration error behind the creation of a
conversation: a call fails with one only if its fetch does. -/
theorem configErrorsIn_evaluate {c : Conversation} (h : c.WellConfigured) (challenge : Bytes)
    (s : Surroundings) (u : Usage) :
    ConfigErrorsIn (FetchFails s u) ((c.evaluate challenge).run s u).1.1 := by
  cases c with
  | iam i => exact Iam.configErrorsIn_evaluate h challenge s u
  | plain p => exact Plain.configErrorsIn_evaluate h

theorem configErrorsIn_askAll {c : Conversation} (h : c.WellConfigured) (s : Surroundings)
    (challenges : List Bytes) (u : Usage) :
    ∀ call ∈ (c.askAll s challenges u).calls,
      ConfigErrorsIn (FetchFails s call.before) call.outcome :=
  forall_calls (P := WellConfigured) (fun _ challenge u h =>
    ⟨configErrorsIn_evaluate h challenge s u, h.evaluate challenge s u⟩) challenges h u

/-- What keeps a conversation from being created is a configuration error. -/
theorem isConfig_of_ofCredential {c : Credential} {e : AuthError} (h : ofCredential c = .error e) :
    e.isConfig = true := by
  unfold ofCredential at h
  split at h
  · cases h
    rfl
  · split at h
    · obtain ⟨-, -, rfl⟩ := Resolver.check_eq_error_iff.mp (Except.map_eq_error_iff.mp h)
      rfl
    · split at h
      · have hcheck := Except.map_eq_error_iff.mp h
        unfold Plain.check at hcheck
        split at hcheck
        · cases hcheck
        · cases hcheck
          rfl
      · cases h
        rfl

/-- The configurations that there is a conversation for. -/
theorem ofCredential_isOk_iff {c : Credential} :
    (∃ conversation, ofCredential c = .ok conversation) ↔
      c.mechanism = .aws ∧
          ¬ (c.property? "AWS_SESSION_TOKEN" ≠ none ∧ (c.username = none ∨ c.password = none)) ∨
        c.mechanism = .plain ∧ c.username ≠ none ∧ c.password ≠ none := by
  have haws : Resolver.check c = .ok () ↔
      ¬ (c.property? "AWS_SESSION_TOKEN" ≠ none ∧ (c.username = none ∨ c.password = none)) := by
    rw [Resolver.check_eq_ok_iff, ← Credential.hasPair_eq_false_iff]
    show _ ↔ ¬ (c.sessionToken? ≠ none ∧ _)
    cases c.sessionToken? <;> cases c.hasPair <;> simp
  have hplain : Plain.check c = .ok () ↔ c.username ≠ none ∧ c.password ≠ none := by
    rw [Plain.check_eq_ok_iff]
    cases c.username <;> cases c.password <;> simp
  rw [← haws, ← hplain]
  constructor
  · rintro ⟨conversation, hconversation⟩
    exact (ofCredential_eq_ok_iff.mp hconversation).imp
      (fun ⟨hmechanism, hcheck, _⟩ => ⟨hmechanism, hcheck⟩)
      (fun ⟨hmechanism, hcheck, _⟩ => ⟨hmechanism, hcheck⟩)
  · rintro (⟨hmechanism, hcheck⟩ | ⟨hmechanism, hcheck⟩)
    · exact ⟨_, ofCredential_eq_ok_iff.mpr (.inl ⟨hmechanism, hcheck, rfl⟩)⟩
    · exact ⟨_, ofCredential_eq_ok_iff.mpr (.inr ⟨hmechanism, hcheck, rfl⟩)⟩

end Conversation

/-! ## Attempts -/

namespace Attempt

variable {transport : Transport} {sent : List Command}

/-- The transport's answer to some commands is an error. -/
def DeliveryFails (transport : Transport) (sent : List Command) (e : AuthError) : Prop :=
  transport sent = .error e

theorem configErrorsIn_check {allowed : AuthError → Prop} (reply : Document) :
    ConfigErrorsIn allowed (Reply.check reply) := by
  unfold Reply.check
  split
  · exact configErrorsIn_ok reply
  · exact configErrorsIn_error nofun

theorem configErrorsIn_send (transport : Transport) (sent : List Command) :
    ConfigErrorsIn (DeliveryFails transport sent) (send transport sent) :=
  ConfigErrorsIn.bind (fun _ h _ => h) configErrorsIn_check

theorem configErrorsIn_opening (transport : Transport) (sent : List Command) :
    ConfigErrorsIn (DeliveryFails transport sent) (opening transport sent) := by
  refine (configErrorsIn_send transport sent).bind fun reply => ?_
  exact (configErrorsIn_mapError (fun _ => rfl) _).bind fun id => configErrorsIn_ok _

theorem configErrorsIn_challengeOf {allowed : AuthError → Prop} (reply : Document) :
    ConfigErrorsIn allowed (challengeOf reply) := by
  unfold challengeOf
  rcases reply.getBool "done" with e | _ | _
  · exact configErrorsIn_error nofun
  · exact configErrorsIn_mapError (fun _ => rfl) _
  · exact configErrorsIn_error nofun

theorem configErrorsIn_challenged (transport : Transport) (sent : List Command) :
    ConfigErrorsIn (DeliveryFails transport sent) (challenged transport sent) := by
  refine (configErrorsIn_opening transport sent).bind fun opened => ?_
  exact (configErrorsIn_challengeOf opened.2).bind fun challenge => configErrorsIn_ok _

theorem configErrorsIn_finish {allowed : AuthError → Prop} (reply : Document)
    (sent : List Command) : ConfigErrorsIn allowed (finish reply sent).outcome := by
  unfold finish
  rcases reply.getBool "done" with e | _ | _
  · exact configErrorsIn_error nofun
  · exact configErrorsIn_error nofun
  · exact configErrorsIn_ok ()

/-- The error comes from outside the client: from the transport, for what was sent last, or from the
source, for the next fetch. -/
def FromOutside (transport : Transport) (sent : List Command) (s : Surroundings) (u : Usage)
    (e : AuthError) : Prop :=
  transport sent = .error e ∨ s.source u.fetches = .error e

theorem configErrorsIn_lastMessage {s : Surroundings} {u : Usage} (database : String) (id : Int32)
    {step : Except AuthError Bytes} (h : ConfigErrorsIn (Resolver.FetchFails s u) step) :
    ConfigErrorsIn (FromOutside transport (lastMessage transport database id sent step).sent s u)
      (lastMessage transport database id sent step).outcome := by
  cases step with
  | error e => exact configErrorsIn_error fun hconfig => .inr (h e rfl hconfig)
  | ok message =>
    rw [sent_lastMessage]
    unfold lastMessage
    have hsend := configErrorsIn_send transport (sent ++ [nextCommand database id message])
    cases hreply : send transport (sent ++ [nextCommand database id message]) with
    | error e =>
      simp only [hreply]
      exact configErrorsIn_error fun hconfig => .inl (hsend e hreply hconfig)
    | ok reply =>
      simp only [hreply]
      exact configErrorsIn_finish reply _

theorem sent_lastMessage_ne_nil (database : String) (id : Int32) (start : Command)
    (step : Except AuthError Bytes) :
    (lastMessage transport database id [start] step).sent ≠ [] := by
  obtain ⟨later, hlater⟩ := exists_sent_lastMessage transport database id [start] step
  rw [hlater]
  exact List.cons_ne_nil start later

/-- An attempt with a conversation sends a command, and its configuration errors come from
outside. -/
theorem configErrorsIn_authenticate {c : Credential} {conversation : Conversation}
    (h : Conversation.ofCredential c = .ok conversation) (transport : Transport) (s : Surroundings)
    (u : Usage) :
    let attempt := ((authenticate c transport).run s u).1
    attempt.sent ≠ [] ∧
      ConfigErrorsIn (FromOutside transport attempt.sent s u) attempt.outcome := by
  rcases Conversation.ofCredential_eq_ok_iff.mp h with ⟨-, hcheck, rfl⟩ | ⟨-, hcheck, rfl⟩
  · rw [run_authenticate_of_signing h]
    have hfirst := configErrorsIn_challenged transport [signingStart c (s.nonce u.nonces)]
    rcases hchallenged : challenged transport [signingStart c (s.nonce u.nonces)] with
      e | ⟨id, challenge⟩
    · simp only [hchallenged]
      exact ⟨List.cons_ne_nil _ [],
        configErrorsIn_error fun hconfig => .inl (hfirst e hchallenged hconfig)⟩
    · simp only [hchallenged]
      refine ⟨sent_lastMessage_ne_nil c.source id _ _, configErrorsIn_lastMessage c.source id ?_⟩
      exact Conversation.Iam.configErrorsIn_evaluate (i := .greeted c (s.nonce u.nonces)) hcheck
        challenge s { u with nonces := u.nonces + 1 }
  · obtain ⟨first, hevaluate⟩ := Conversation.run_evaluate_plain_start hcheck s u
    rw [run_authenticate_of_plain h transport hevaluate]
    have hfirst := configErrorsIn_opening transport [⟨c.source, startCommand .plain first⟩]
    rcases hopening : opening transport [⟨c.source, startCommand .plain first⟩] with
      e | ⟨id, reply⟩
    · simp only [hopening]
      exact ⟨List.cons_ne_nil _ [],
        configErrorsIn_error fun hconfig => .inl (hfirst e hopening hconfig)⟩
    · simp only [hopening, sent_finish]
      exact ⟨List.cons_ne_nil _ [], configErrorsIn_finish reply _⟩

/-- **Configuration errors come first, and only then.** For every credential, in any surroundings
and over any transport:

* A command is sent exactly if there is a conversation for the credential.
* Otherwise the attempt ends with the configuration error that keeps it from being created, and
  nothing was sent, drawn, read or fetched.
* There is a conversation for the signing mechanism unless a session token is configured without
  both a username and a password, for the plain mechanism if both are configured, and for no other.
* Once there is one, a configuration error of the attempt is that of the transport for the last
  command or that of the source for a fetch, and one of a call of the conversation, in any run, is
  that of the source for the fetch of this call.
* So with a metadata client as the source, in networks that may change between fetches, and a
  transport that reports no configuration error, there is none once a command was sent. -/
theorem config_errors_first (c : Credential) (transport : Transport) (s : Surroundings)
    (u : Usage) :
    let result := (authenticate c transport).run s u
    (result.1.sent ≠ [] ↔ ∃ conversation, Conversation.ofCredential c = .ok conversation) ∧
    (∀ e, Conversation.ofCredential c = .error e →
      e.isConfig = true ∧ result = (⟨.error e, []⟩, u)) ∧
    ((∃ conversation, Conversation.ofCredential c = .ok conversation) ↔
      c.mechanism = .aws ∧
          ¬ (c.property? "AWS_SESSION_TOKEN" ≠ none ∧ (c.username = none ∨ c.password = none)) ∨
        c.mechanism = .plain ∧ c.username ≠ none ∧ c.password ≠ none) ∧
    (∀ conversation, Conversation.ofCredential c = .ok conversation →
      (∀ e, result.1.outcome = .error e → e.isConfig = true →
        transport result.1.sent = .error e ∨ s.source u.fetches = .error e) ∧
      ∀ challenges, ∀ call ∈ (conversation.askAll s challenges u).calls, ∀ e,
        call.outcome = .error e → e.isConfig = true → s.source call.before.fetches = .error e) ∧
    ∀ (client : Metadata.Client) (network : Nat → Http.Network),
      (∀ k, s.source k = (client.fetch (network k)).result) →
      (∀ sent e, transport sent = .error e → e.isConfig = false) →
      result.1.sent ≠ [] → ∀ e, result.1.outcome = .error e → e.isConfig = false := by
  intro result
  have hsent : result.1.sent ≠ [] ↔
      ∃ conversation, Conversation.ofCredential c = .ok conversation := by
    cases h : Conversation.ofCredential c with
    | ok conversation =>
      exact iff_of_true (configErrorsIn_authenticate h transport s u).1 ⟨conversation, rfl⟩
    | error e =>
      have hresult : result = (⟨.error e, []⟩, u) :=
        run_authenticate_of_misconfigured h transport s u
      simp [hresult]
  refine ⟨hsent, ?_, Conversation.ofCredential_isOk_iff, ?_, ?_⟩
  · intro e h
    exact ⟨Conversation.isConfig_of_ofCredential h,
      run_authenticate_of_misconfigured h transport s u⟩
  · intro conversation h
    have hconfigured := Conversation.wellConfigured_ofCredential h
    exact ⟨(configErrorsIn_authenticate h transport s u).2, fun challenges =>
      Conversation.configErrorsIn_askAll hconfigured s challenges u⟩
  · intro client network hsource htransport hactive e houtcome
    obtain ⟨conversation, h⟩ := hsent.mp hactive
    cases hconfig : e.isConfig with
    | false => rfl
    | true =>
      rcases (configErrorsIn_authenticate h transport s u).2 e houtcome hconfig with
        hdelivery | hfetch
      · rw [← hconfig, htransport _ e hdelivery]
      · rw [hsource] at hfetch
        rw [← hconfig, Metadata.Client.isConfig_fetch hfetch]

/-- Keys from a metadata client in a network that is out of reach, over a connection that breaks. -/
theorem config_errors_first_of_metadata :
    let c : Credential := { mechanism := .aws }
    let client := Metadata.Client.ofSettings {} .instanceRole
    let network : Http.Network := fun _ => .unreachable
    let transport : Transport := fun _ => .error (.transport "connection closed")
    let s : Surroundings := ⟨fun _ => .counting, fun _ => .ofMilliseconds 0, client.source network⟩
    let attempt := ((authenticate c transport).run s {}).1
    attempt.sent ≠ [] ∧ ∀ e, attempt.outcome = .error e → e.isConfig = false := by
  intro c client network transport s attempt
  obtain ⟨hsent, -, hcreated, -, hlater⟩ := config_errors_first c transport s {}
  have hactive : attempt.sent ≠ [] :=
    hsent.mpr (hcreated.mpr (.inl ⟨rfl, fun habsurd => habsurd.1 rfl⟩))
  refine ⟨hactive, hlater client (fun _ => network) (fun _ => rfl) ?_ hactive⟩
  rintro sent _ ⟨⟩
  rfl

end Attempt

end SaslClient
