import SaslClient.Conversation.Iam
import SaslClient.Proofs.Conversation.ServerFirst
import SaslClient.Proofs.Resolver
import SaslClient.Proofs.Signing.Authorization

/-!
# The two messages of a signing conversation

The first message carries the next nonce and asks for nothing else. The second one depends on the
challenge: a refused challenge ends the conversation before anything is used, an accepted one lets
the keys be resolved, then the clock be read once, and the request be signed.

Main results:

* `finalMessage_agrees`: whoever knows the secret key, the host and the server nonce recomputes the
  authorization header of the second message from the message's own timestamp and token.
* `challenge_decides`: which challenges lead to a fetch, what the others are answered with, and that
  no challenge is accepted under two nonces.
-/

namespace SaslClient.Conversation.Iam

variable {c : Credential} {n : Nonce} {challenge : Bytes} {first : ServerFirst}

/-- The conversation behind its first message, with the nonce that was sent. -/
def greeted (c : Credential) (n : Nonce) : Iam :=
  ⟨{ credential := c }, .awaitingServerFirst n⟩

/-- Where a conversation is after its second message, or after failing to make it. -/
def answered : Except AuthError Bytes → Phase
  | .ok _ => .complete
  | .error _ => .failed

/-! ## The steps -/

/-- The first message is made whatever the challenge and the credential are. -/
theorem run_evaluate_start (c : Credential) (challenge : Bytes) (s : Surroundings) (u : Usage) :
    ((start c).evaluate challenge).run s u =
      ((.ok (firstDocument (s.nonce u.nonces)).encode, greeted c (s.nonce u.nonces)),
        { u with nonces := u.nonces + 1 }) := rfl

theorem run_evaluate_awaiting {i : Iam} (h : i.phase = .awaitingServerFirst n) (challenge : Bytes)
    (s : Surroundings) (u : Usage) :
    (i.evaluate challenge).run s u =
      let r := (answer i.resolver n challenge).run s u
      ((r.1.1, ⟨r.1.2, answered r.1.1⟩), r.2) := by
  unfold evaluate
  rw [h]
  simp only [Act.run_bind]
  cases ((answer i.resolver n challenge).run s u).1.1 <;> rfl

theorem run_evaluate_greeted (c : Credential) (n : Nonce) (challenge : Bytes) (s : Surroundings)
    (u : Usage) :
    ((greeted c n).evaluate challenge).run s u =
      let r := (answer { credential := c } n challenge).run s u
      ((r.1.1, ⟨r.1.2, answered r.1.1⟩), r.2) :=
  run_evaluate_awaiting rfl challenge s u

theorem run_evaluate_complete {i : Iam} (h : i.phase = .complete) (challenge : Bytes)
    (s : Surroundings) (u : Usage) :
    (i.evaluate challenge).run s u =
      ((.error (.tooManySteps Mechanism.aws.name), { i with phase := .failed }), u) := by
  unfold evaluate
  rw [h]
  rfl

theorem run_evaluate_failed {i : Iam} (h : i.phase = .failed) (challenge : Bytes)
    (s : Surroundings) (u : Usage) :
    (i.evaluate challenge).run s u = ((.error .conversationAborted, i), u) := by
  unfold evaluate
  rw [h]
  rfl

/-! ## The answer to a challenge -/

theorem run_answer_of_refused {e : AuthError} (h : ServerFirst.Refused n challenge e)
    (r : Resolver) (s : Surroundings) (u : Usage) :
    (answer r n challenge).run s u = ((.error e, r), u) := by
  unfold answer
  rw [ServerFirst.read_eq_error_iff.mpr h]
  rfl

theorem run_answer_of_unresolved (h : ServerFirst.Accepted n challenge first) {r : Resolver}
    {s : Surroundings} {u : Usage} {e : AuthError} (hkeys : (r.resolve.run s u).1.1 = .error e) :
    (answer r n challenge).run s u =
      ((.error e, (r.resolve.run s u).1.2), (r.resolve.run s u).2) := by
  unfold answer
  rw [ServerFirst.read_eq_ok_iff.mpr h]
  simp only [Act.run_bind, hkeys, Act.run_pure]

theorem run_answer_of_resolved (h : ServerFirst.Accepted n challenge first) {r : Resolver}
    {s : Surroundings} {u : Usage} {keys : SigningKeys}
    (hkeys : (r.resolve.run s u).1.1 = .ok keys) :
    (answer r n challenge).run s u =
      let after := (r.resolve.run s u).2
      (((finalDocument keys first (s.clock after.clockReads).timestamp).map Document.encode,
        (r.resolve.run s u).1.2), { after with clockReads := after.clockReads + 1 }) := by
  unfold answer
  rw [ServerFirst.read_eq_ok_iff.mpr h]
  simp only [Act.run_bind, hkeys, run_readClock, Act.run_pure]

/-- Answering an accepted challenge draws and fetches what resolving does. -/
theorem usage_answer_of_accepted (h : ServerFirst.Accepted n challenge first) (r : Resolver)
    (s : Surroundings) (u : Usage) :
    ((answer r n challenge).run s u).2.nonces = (r.resolve.run s u).2.nonces ∧
      ((answer r n challenge).run s u).2.fetches = (r.resolve.run s u).2.fetches := by
  cases hkeys : (r.resolve.run s u).1.1 with
  | error e =>
    rw [run_answer_of_unresolved h hkeys]
    exact ⟨rfl, rfl⟩
  | ok keys =>
    rw [run_answer_of_resolved h hkeys]
    exact ⟨rfl, rfl⟩

/-- An accepted challenge is answered without a fetch, or with one if the credential needs a key
document. -/
theorem fetches_answer (h : ServerFirst.Accepted n challenge first) (c : Credential)
    (s : Surroundings) (u : Usage) :
    ((answer { credential := c } n challenge).run s u).2.fetches =
      if Resolver.NeedsDocument c then u.fetches + 1 else u.fetches := by
  rw [(usage_answer_of_accepted h _ s u).2, Resolver.usage_resolve]
  split <;> rfl

/-- Answering draws no nonce, and fetches once or not at all. -/
theorem usage_answer (r : Resolver) (n : Nonce) (challenge : Bytes) (s : Surroundings) (u : Usage) :
    ((answer r n challenge).run s u).2.nonces = u.nonces ∧
      (((answer r n challenge).run s u).2.fetches = u.fetches ∨
        ((answer r n challenge).run s u).2.fetches = u.fetches + 1) := by
  rcases ServerFirst.accepted_or_refused n challenge with ⟨first, haccepted⟩ | ⟨e, hrefused⟩
  · obtain ⟨hnonces, hfetches⟩ := usage_answer_of_accepted haccepted r s u
    rw [hnonces, hfetches]
    rcases Resolver.usage_resolve_or r s u with husage | husage
    · rw [husage]
      exact ⟨rfl, .inl rfl⟩
    · rw [husage]
      exact ⟨rfl, .inr rfl⟩
  · rw [run_answer_of_refused hrefused]
    exact ⟨rfl, .inl rfl⟩

/-! ## The final message -/

/-- The fields of the second message. -/
def finalFields (header timestamp : String) (token : Option String) : List (String × Value) :=
  [("a", .text header), ("d", .text timestamp)] ++
    (token.map fun t => ("t", Value.text t)).toList

theorem finalDocument_eq (keys : SigningKeys) (first : ServerFirst) (timestamp : String) :
    finalDocument keys first timestamp =
      ((Authorization.sign (signingInput keys first timestamp)).mapError .signing).map fun a =>
        .ofFields (finalFields a.header timestamp keys.sessionToken) := by
  unfold finalDocument finalFields
  cases Authorization.sign (signingInput keys first timestamp) <;> cases keys.sessionToken <;> rfl

theorem finalDocument_eq_ok_iff {keys : SigningKeys} {timestamp : String} {d : Document} :
    finalDocument keys first timestamp = .ok d ↔
      ∃ a : Authorization, Authorization.sign (signingInput keys first timestamp) = .ok a ∧
        d.entries = finalFields a.header timestamp keys.sessionToken := by
  have hkeys (header : String) :
      ((finalFields header timestamp keys.sessionToken).map (·.1)).Nodup := by
    cases keys.sessionToken <;> simp [finalFields]
  simp only [finalDocument_eq, Except.map_eq_ok_iff, Except.mapError_eq_ok_iff,
    Document.ofFields_eq_iff (hkeys _)]

theorem finalDocument_eq_error_iff {keys : SigningKeys} {timestamp : String} {e : AuthError} :
    finalDocument keys first timestamp = .error e ↔
      ∃ fault, Authorization.sign (signingInput keys first timestamp) = .error fault ∧
        .signing fault = e := by
  simp only [finalDocument_eq, Except.map_eq_error_iff, Except.mapError_eq_error_iff]

theorem getText_token {d : Document} {header timestamp : String} {token : Option String}
    (h : d.entries = finalFields header timestamp token) : (d.getText "t").toOption = token := by
  rw [← Document.ofEntries_entries d, h]
  cases token <;> rfl

theorem mem_keys_token {d : Document} {header timestamp : String} {token : Option String}
    (h : d.entries = finalFields header timestamp token) :
    "t" ∈ d.keys ↔ token.isSome = true := by
  unfold Document.keys
  rw [h]
  cases token <;> simp [finalFields]

/-- What the second message is made from when it is made: an accepted challenge, resolved keys, and
a header signed for both at the time of the clock. -/
theorem answer_eq_ok {s : Surroundings} {u : Usage} {message : Bytes}
    (h : ((answer { credential := c } n challenge).run s u).1.1 = .ok message) :
    ∃ (first : ServerFirst) (keys : SigningKeys) (authorization : Authorization) (d : Document),
      ServerFirst.Accepted n challenge first ∧
      (({ credential := c } : Resolver).resolve.run s u).1.1 = .ok keys ∧
      Authorization.sign (signingInput keys first (s.clock u.clockReads).timestamp) =
        .ok authorization ∧
      d.entries = finalFields authorization.header (s.clock u.clockReads).timestamp
        keys.sessionToken ∧
      message = d.encode := by
  rcases ServerFirst.accepted_or_refused n challenge with ⟨first, haccepted⟩ | ⟨e, hrefused⟩
  · cases hkeys : (({ credential := c } : Resolver).resolve.run s u).1.1 with
    | error e =>
      rw [run_answer_of_unresolved haccepted hkeys] at h
      cases h
    | ok keys =>
      rw [run_answer_of_resolved haccepted hkeys] at h
      simp only [Resolver.clockReads_resolve] at h
      obtain ⟨d, hd, hmessage⟩ := Except.map_eq_ok_iff.mp h
      obtain ⟨authorization, hsign, hentries⟩ := finalDocument_eq_ok_iff.mp hd
      exact ⟨first, keys, authorization, d, haccepted, rfl, hsign, hentries, hmessage.symm⟩
  · rw [run_answer_of_refused hrefused] at h
    cases h

/-- A message is made with one look at the clock. -/
theorem clockReads_answer {s : Surroundings} {u : Usage} {message : Bytes}
    (h : ((answer { credential := c } n challenge).run s u).1.1 = .ok message) :
    ((answer { credential := c } n challenge).run s u).2.clockReads = u.clockReads + 1 := by
  obtain ⟨first, keys, -, -, haccepted, hkeys, -⟩ := answer_eq_ok h
  rw [run_answer_of_resolved haccepted hkeys]
  exact congrArg (· + 1) (Resolver.clockReads_resolve c s u)

/-- Keys that name an access key answer an accepted challenge at any time whose text begins with a
date. -/
theorem exists_message (h : ServerFirst.Accepted n challenge first) {s : Surroundings} {u : Usage}
    {keys : SigningKeys} {date : String}
    (hkeys : (({ credential := c } : Resolver).resolve.run s u).1.1 = .ok keys)
    (hid : keys.accessKeyId.isEmpty = false)
    (hdate : Signing.dateOf? (s.clock u.clockReads).timestamp = some date) :
    ∃ message, (((greeted c n).evaluate challenge).run s u).1.1 = .ok message := by
  obtain ⟨region, hregion⟩ := h.region
  have hsign : Authorization.sign (signingInput keys first (s.clock u.clockReads).timestamp) =
      .ok (Authorization.compute (signingInput keys first (s.clock u.clockReads).timestamp) date
        region) :=
    Authorization.sign_eq_ok_iff.mpr ⟨hid, date, region, hdate, hregion, rfl⟩
  rw [run_evaluate_greeted, run_answer_of_resolved h hkeys]
  simp only [Resolver.clockReads_resolve, finalDocument_eq, hsign]
  exact ⟨_, rfl⟩

/-- **The final message verifies.** Whenever the second message is made, it is a document with the
fields `a` and `d`, and `t` exactly if the resolved keys have a session token, which is never empty.
Signing again with the resolved keys, for the host and nonce that the server sent, with the
message's own timestamp and token, gives the header in `a`. The header lists the token as signed
exactly if the message carries one. -/
theorem finalMessage_agrees {s : Surroundings} {u : Usage} {message : Bytes}
    (h : (((greeted c n).evaluate challenge).run s u).1.1 = .ok message) :
    ∃ (first : ServerFirst) (keys : SigningKeys) (d : Document) (a timestamp : String),
      ServerFirst.Holds challenge first ∧
      (({ credential := c } : Resolver).resolve.run s u).1.1 = .ok keys ∧
      timestamp = (s.clock u.clockReads).timestamp ∧
      message = d.encode ∧
      d.entries = [("a", .text a), ("d", .text timestamp)] ++
        (keys.sessionToken.map fun token => ("t", Value.text token)).toList ∧
      d.getText "t" ≠ .ok "" ∧
      (∃ authorization : Authorization,
        Authorization.sign
            { accessKeyId := keys.accessKeyId
              secretKey := keys.secretKey
              sessionToken := (d.getText "t").toOption
              host := first.host
              serverNonce := first.nonce
              timestamp := timestamp } = .ok authorization ∧
          authorization.header = a) ∧
      ("t" ∈ d.keys ↔ "x-amz-security-token" ∈ Authorization.listedNames a) := by
  rw [run_evaluate_greeted] at h
  obtain ⟨first, keys, authorization, d, haccepted, hkeys, hsign, hentries, hmessage⟩ :=
    answer_eq_ok h
  have htoken := getText_token hentries
  refine ⟨first, keys, d, authorization.header, _, haccepted.holds, hkeys, rfl, hmessage, hentries,
    ?_, ⟨authorization, ?_, rfl⟩, ?_⟩
  · intro hempty
    rw [hempty] at htoken
    exact Resolver.sessionToken_ne_empty hkeys htoken.symm
  · rw [htoken]
    exact hsign
  · obtain ⟨date, region, rfl⟩ := Authorization.eq_compute_of_sign hsign
    rw [Authorization.listedNames_header, mem_keys_token hentries]
    show keys.sessionToken.isSome = true ↔ Signing.tokenHeader ∈ _
    rw [SigningInput.mem_signed_securityToken]
    rfl

/-- A credential with a session token, a challenge and a time at which the message is made. -/
theorem finalMessage_agrees_of_token :
    let c : Credential :=
      { mechanism := .aws
        username := some "AKIDEXAMPLE"
        password := some "secret"
        properties := Properties.empty.set "AWS_SESSION_TOKEN" "token" }
    let challenge := (Document.ofFields
      [("h", .text "sts.amazonaws.com"),
        ("s", .binary (Nonce.counting.bytes ++ Nonce.counting.bytes))]).encode
    let s : Surroundings := ⟨fun _ => .counting, fun _ => .ofMilliseconds 1704110400000,
      fun _ => .error .conversationAborted⟩
    ∃ (message : Bytes) (d : Document) (a : String),
      (((greeted c .counting).evaluate challenge).run s {}).1.1 = .ok message ∧
      message = d.encode ∧
      d.entries = [("a", .text a), ("d", .text "20240101T120000Z"), ("t", .text "token")] ∧
      "x-amz-security-token" ∈ Authorization.listedNames a := by
  intro c challenge s
  have haccepted : ServerFirst.Accepted .counting challenge
      ⟨"sts.amazonaws.com", Nonce.counting.bytes ++ Nonce.counting.bytes⟩ :=
    ServerFirst.read_eq_ok_iff.mp (Except.toOption_eq_some_iff.mp (by decide +kernel))
  have hresolved : (({ credential := c } : Resolver).resolve.run s {}).1.1 =
      .ok ⟨"AKIDEXAMPLE", "secret", some "token", .explicit⟩ := by
    rw [Resolver.run_resolve_of_pair rfl rfl]
    rfl
  have hdate : Signing.dateOf? (s.clock 0).timestamp = some "20240101" := by decide +kernel
  obtain ⟨message, hmessage⟩ := exists_message haccepted hresolved rfl hdate
  obtain ⟨first, keys, d, a, timestamp, -, hkeys, rfl, hd, hentries, -, -, htoken⟩ :=
    finalMessage_agrees hmessage
  obtain rfl := Except.ok.inj (hresolved.symm.trans hkeys)
  have htime : (s.clock 0).timestamp = "20240101T120000Z" := by decide +kernel
  refine ⟨message, d, a, hmessage, hd, ?_, htoken.mp ?_⟩
  · rw [hentries]
    show [_, ("d", Value.text (s.clock 0).timestamp), _] = _
    rw [htime]
  · rw [Document.keys, hentries]
    simp

/-! ## What a challenge decides -/

theorem run_greeted_of_refused {e : AuthError} (h : ServerFirst.Refused n challenge e)
    (c : Credential) (s : Surroundings) (u : Usage) :
    ((greeted c n).evaluate challenge).run s u =
      ((.error e, ⟨{ credential := c }, .failed⟩), u) := by
  rw [run_evaluate_greeted, run_answer_of_refused h]
  rfl

/-- The second step fetches exactly for an accepted challenge and a credential that needs a key
document, and then once. -/
theorem fetches_greeted (c : Credential) (n : Nonce) (challenge : Bytes) (s : Surroundings)
    (u : Usage) :
    let fetches := (((greeted c n).evaluate challenge).run s u).2.fetches
    (fetches = u.fetches ∨ fetches = u.fetches + 1) ∧
      (fetches = u.fetches + 1 ↔
        (∃ first, ServerFirst.Accepted n challenge first) ∧ Resolver.NeedsDocument c) := by
  intro fetches
  rcases ServerFirst.accepted_or_refused n challenge with ⟨first, haccepted⟩ | ⟨e, hrefused⟩
  · have hfetches : fetches = if Resolver.NeedsDocument c then u.fetches + 1 else u.fetches := by
      show (((greeted c n).evaluate challenge).run s u).2.fetches = _
      rw [run_evaluate_greeted]
      exact fetches_answer haccepted c s u
    have haccepts : ∃ first, ServerFirst.Accepted n challenge first := ⟨first, haccepted⟩
    rw [hfetches]
    split <;> simp [*]
  · have hfetches : fetches = u.fetches := by
      show (((greeted c n).evaluate challenge).run s u).2.fetches = _
      rw [run_greeted_of_refused hrefused]
    have hnot : ¬ ∃ first, ServerFirst.Accepted n challenge first := by
      rintro ⟨first, haccepted⟩
      exact hrefused.not_accepted first haccepted
    refine ⟨.inl hfetches, ?_, fun h => absurd h.1 hnot⟩
    intro h
    omega

/-- With an accepted challenge the second step fails only if no keys are resolved, on an empty
access key id, or on the text of the time. -/
theorem error_of_accepted (h : ServerFirst.Accepted n challenge first) {s : Surroundings}
    {u : Usage} {e : AuthError}
    (herror : (((greeted c n).evaluate challenge).run s u).1.1 = .error e) :
    (({ credential := c } : Resolver).resolve.run s u).1.1 = .error e ∨
      e = .signing (.invalidTimestamp (s.clock u.clockReads).timestamp) ∨
      e = .signing .emptyAccessKeyId := by
  rw [run_evaluate_greeted] at herror
  cases hkeys : (({ credential := c } : Resolver).resolve.run s u).1.1 with
  | error e' =>
    rw [run_answer_of_unresolved h hkeys] at herror
    obtain rfl := Except.error.inj herror
    exact .inl rfl
  | ok keys =>
    rw [run_answer_of_resolved h hkeys] at herror
    simp only [Resolver.clockReads_resolve] at herror
    obtain ⟨fault, hsign, rfl⟩ :=
      finalDocument_eq_error_iff.mp (Except.map_eq_error_iff.mp herror)
    rcases Authorization.sign_eq_error_iff.mp hsign with
      ⟨-, rfl⟩ | ⟨-, -, rfl⟩ | ⟨-, -, hregion⟩
    · exact .inr (.inr rfl)
    · exact .inr (.inl rfl)
    · -- the region was read off the host when the challenge was accepted
      obtain ⟨region, hok⟩ := h.region
      have hok' : Region.ofHost first.host = .error fault := hregion
      rw [hok] at hok'
      cases hok'

/-- **A challenge decides what is used.** The second step calls the source of key documents exactly
if the challenge is accepted and the credential needs a key document, and then once. A challenge
that is not accepted is answered with its first fault, and nothing is used. An accepted one is
answered with an error only if no keys are resolved, on the text of the time, or on an empty access
key id. A challenge that is answered with a message under one nonce is refused under every other, by
every client. -/
theorem challenge_decides (c : Credential) (n : Nonce) (challenge : Bytes) (s : Surroundings)
    (u : Usage) :
    let step := ((greeted c n).evaluate challenge).run s u
    (step.2.fetches = u.fetches ∨ step.2.fetches = u.fetches + 1) ∧
    (step.2.fetches = u.fetches + 1 ↔
      (∃ first, ServerFirst.Accepted n challenge first) ∧
        (c.username = none ∨ c.password = none) ∧ c.property? "AWS_SESSION_TOKEN" = none) ∧
    ((¬ ∃ first, ServerFirst.Accepted n challenge first) →
      ∃ e, ServerFirst.Refused n challenge e ∧ step.1.1 = .error e ∧ step.2 = u) ∧
    (∀ first e, ServerFirst.Accepted n challenge first → step.1.1 = .error e →
      (({ credential := c } : Resolver).resolve.run s u).1.1 = .error e ∨
        e = .signing (.invalidTimestamp (s.clock u.clockReads).timestamp) ∨
        e = .signing .emptyAccessKeyId) ∧
    (∀ message, step.1.1 = .ok message → ∀ n', n' ≠ n → ∀ c' s' u',
      let replayed := ((greeted c' n').evaluate challenge).run s' u'
      replayed.1.1 = .error (.invalidServerNonce .notEchoed) ∧ replayed.2 = u') := by
  intro step
  obtain ⟨honce, hiff⟩ := fetches_greeted c n challenge s u
  refine ⟨honce, hiff, ?_, ?_, ?_⟩
  · intro hnot
    obtain ⟨e, hrefused⟩ := (ServerFirst.accepted_or_refused n challenge).resolve_left hnot
    refine ⟨e, hrefused, ?_⟩
    rw [show step = _ from run_greeted_of_refused hrefused c s u]
    exact ⟨rfl, rfl⟩
  · intro first e haccepted herror
    exact error_of_accepted haccepted herror
  · intro message hmessage n' hne c' s' u' replayed
    rw [show step = _ from run_evaluate_greeted c n challenge s u] at hmessage
    obtain ⟨first, -, -, -, haccepted, -⟩ := answer_eq_ok hmessage
    have hrefused := ServerFirst.refused_of_accepted_of_ne haccepted hne
    rw [show replayed = _ from run_greeted_of_refused hrefused c' s' u']
    exact ⟨rfl, rfl⟩

end SaslClient.Conversation.Iam
