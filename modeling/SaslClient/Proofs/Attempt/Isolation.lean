import SaslClient.Proofs.Attempt
import SaslClient.Proofs.Conversation.Messages
import SaslClient.Proofs.Surroundings

/-!
# Attempts one after the other

Attempts for one credential share a stream of nonces and a source of key documents, and nothing
else. An attempt is confined: it takes the answers that are left in order and depends on no others.
So it goes as it would alone in what the earlier attempts left, whatever came of them.

Main results:

* `confined_authenticate`: an attempt is confined, because each of its steps is.
* `nonces_usedBefore`: how many nonces are drawn before an attempt of a sequence.
* `isolated`: the nonces, the fetches and the results of the attempts of a sequence.
-/

namespace SaslClient

/-! ## Each step is confined -/

theorem Resolver.confined_document (r : Resolver) : (document.on r).Confined := by
  cases hd : r.document? with
  | some d =>
    have hrun : document.on r = pure (.ok d, r) := funext₂ (run_document_of_some hd)
    rw [hrun]
    exact Act.confined_pure _
  | none =>
    have hrun : document.on r = fetchAnswer >>= fun answer =>
        let d := answer.bind Metadata.KeyDocument.parse
        pure (d, r.keeping d) :=
      funext₂ (run_document_of_none hd)
    rw [hrun]
    exact Act.confined_fetchAnswer.bind fun _ => Act.confined_pure _

theorem Resolver.confined_resolve (r : Resolver) : r.resolve.Confined := by
  rw [resolve_eq_resolveOnce]
  unfold resolveOnce
  split
  · exact Act.confined_pure _
  · split
    · exact Act.confined_pure _
    · exact r.confined_document.bind fun _ => Act.confined_pure _

namespace Conversation

theorem Iam.confined_answer (r : Resolver) (n : Nonce) (challenge : Bytes) :
    (answer r n challenge).Confined := by
  unfold answer
  split
  · exact Act.confined_pure _
  · refine r.confined_resolve.bind fun resolved => ?_
    dsimp only
    split
    · exact Act.confined_pure _
    · exact Act.confined_readClock.bind fun _ => Act.confined_pure _

theorem Iam.confined_evaluate (i : Iam) (challenge : Bytes) : (i.evaluate challenge).Confined := by
  unfold evaluate
  split
  · exact Act.confined_drawNonce.bind fun _ => Act.confined_pure _
  · refine (Iam.confined_answer _ _ _).bind fun answered => ?_
    dsimp only
    split <;> exact Act.confined_pure _
  · exact Act.confined_pure _
  · exact Act.confined_pure _

theorem confined_evaluate (c : Conversation) (challenge : Bytes) :
    (c.evaluate challenge).Confined := by
  cases c with
  | iam i => exact (i.confined_evaluate challenge).bind fun _ => Act.confined_pure _
  | plain p => exact Act.confined_pure _

end Conversation

namespace Attempt

variable {c : Credential} {s : Surroundings} {u : Usage} {transport : Transport}
  {transports : List Transport}

theorem confined_round (transport : Transport) (database : String) (id : Int32) (r : Relay) :
    (round transport database id r).Confined := by
  unfold round
  split
  · exact Act.confined_pure _
  · split <;> exact Act.confined_pure _
  · split
    · exact Act.confined_pure _
    · split
      · exact Act.confined_pure _
      · refine (r.conversation.confined_evaluate _).bind fun step => ?_
        dsimp only
        split
        · exact Act.confined_pure _
        · split <;> exact Act.confined_pure _

theorem confined_relay (transport : Transport) (database : String) (id : Int32) (rounds : Nat)
    (r : Relay) : (relay transport database id rounds r).Confined := by
  induction rounds generalizing r with
  | zero => exact Act.confined_pure _
  | succ rounds ih =>
    refine (confined_round transport database id r).bind fun ended => ?_
    split
    · exact Act.confined_pure _
    · exact ih _

theorem confined_converse (transport : Transport) (database : String)
    (conversation : Conversation) : (converse transport database conversation).Confined := by
  unfold converse
  rw [Conversation.first_eq_evaluate]
  refine (conversation.confined_evaluate []).bind fun step => ?_
  dsimp only
  split
  · exact Act.confined_pure _
  · split
    · exact Act.confined_pure _
    · split
      · exact Act.confined_pure _
      · exact confined_relay transport database _ _ _

/-- An attempt takes what is left of the surroundings in order, and depends on nothing else. -/
theorem confined_authenticate (c : Credential) (transport : Transport) :
    (authenticate c transport).Confined := by
  unfold authenticate
  split
  · exact Act.confined_pure _
  · exact confined_converse transport c.source _

/-! ## One attempt -/

/-- The attempt begins with a start command whose payload is a document with the nonce in its field
`r`. -/
def SendsNonce (c : Credential) (n : Nonce) (attempt : Attempt) : Prop :=
  ∃ (payload : Bytes) (d : Document) (later : List Command),
    attempt.sent = ⟨c.source, .ofEntries
      [("saslStart", .int32 1), ("mechanism", .text "MONGODB-AWS"),
        ("payload", .binary payload)]⟩ :: later ∧
    Document.decode payload = .ok d ∧ d.get? "r" = some (.binary n.bytes)

theorem sendsNonce_of_signingStart {n : Nonce} {attempt : Attempt} {later : List Command}
    (h : attempt.sent = signingStart c n :: later) : SendsNonce c n attempt := by
  obtain ⟨hdecode, hnonce⟩ := Conversation.decode_firstDocument n
  exact ⟨_, _, later, h, hdecode, hnonce⟩

/-- A signing attempt draws the next nonce, and no other, and sends it. -/
theorem draws_of_signing (h : Conversation.ofCredential c = .ok (.iam (.start c)))
    (transport : Transport) (s : Surroundings) (u : Usage) :
    ((authenticate c transport).run s u).2.nonces = u.nonces + 1 ∧
      SendsNonce c (s.nonce u.nonces) ((authenticate c transport).run s u).1 := by
  rcases run_authenticate_signing h transport s u with ⟨e, -, hrun⟩ | ⟨id, challenge, -, hrun⟩
  · rw [hrun]
    exact ⟨rfl, sendsNonce_of_signingStart rfl⟩
  · rw [hrun]
    constructor
    · rw [Conversation.Iam.run_evaluate_greeted]
      exact (Conversation.Iam.usage_answer _ _ challenge s _).1
    · obtain ⟨later, hlater⟩ := exists_sent_lastMessage transport c.source id _ _
      exact sendsNonce_of_signingStart hlater

/-- A plain attempt uses nothing of the surroundings. -/
theorem usage_of_plain (h : Conversation.ofCredential c = .ok (.plain (.start c)))
    (transport : Transport) (s : Surroundings) (u : Usage) :
    ((authenticate c transport).run s u).2 = u := by
  rcases Conversation.ofCredential_eq_ok_iff.mp h with ⟨-, -, habsurd⟩ | ⟨-, hcheck, -⟩
  · cases habsurd
  obtain ⟨first, hfirst⟩ := Conversation.run_evaluate_plain_start hcheck s u
  rw [run_authenticate_of_plain h transport hfirst]

/-- Attempts that are refused and plain ones use nothing of the surroundings. -/
theorem usage_of_quiet
    (h : (∃ e, Conversation.ofCredential c = .error e) ∨ c.mechanism = .plain)
    (transport : Transport) (s : Surroundings) (u : Usage) :
    ((authenticate c transport).run s u).2 = u := by
  cases hconversation : Conversation.ofCredential c with
  | error e => rw [run_authenticate_of_misconfigured hconversation]
  | ok conversation =>
    rcases h with ⟨e, he⟩ | hmechanism
    · rw [hconversation] at he
      cases he
    · have hplain := Conversation.ofCredential_of_plain hmechanism hconversation
      exact usage_of_plain hplain transport s u

/-- Any attempt fetches once or not at all. -/
theorem fetches_authenticate (c : Credential) (transport : Transport) (s : Surroundings)
    (u : Usage) :
    ((authenticate c transport).run s u).2.fetches = u.fetches ∨
      ((authenticate c transport).run s u).2.fetches = u.fetches + 1 := by
  cases h : Conversation.ofCredential c with
  | error e =>
    rw [run_authenticate_of_misconfigured h]
    exact .inl rfl
  | ok conversation =>
    rcases Conversation.ofCredential_eq_ok_iff.mp h with ⟨-, -, rfl⟩ | ⟨-, -, rfl⟩
    · rcases run_authenticate_signing h transport s u with ⟨e, -, hrun⟩ | ⟨id, challenge, -, hrun⟩
      · rw [hrun]
        exact .inl rfl
      · rw [hrun, Conversation.Iam.run_evaluate_greeted]
        exact (Conversation.Iam.usage_answer _ _ challenge s _).2
    · rw [usage_of_plain h]
      exact .inl rfl

/-! ## Sequences of attempts -/

/-- One of several attempts, with what had been used before it and after it. -/
structure Try where
  attempt : Attempt
  usedBefore : Usage
  usedAfter : Usage

/-- Attempts over one transport after the other, whatever came of the earlier ones. -/
def tries (c : Credential) (s : Surroundings) : List Transport → Usage → List Try
  | [], _ => []
  | transport :: transports, u =>
    let step := (authenticate c transport).run s u
    ⟨step.1, u, step.2⟩ :: tries c s transports step.2

theorem length_tries (c : Credential) (s : Surroundings) (transports : List Transport) (u : Usage) :
    (tries c s transports u).length = transports.length := by
  induction transports generalizing u with
  | nil => rfl
  | cons transport transports ih => exact congrArg (· + 1) (ih _)

/-- The first attempt begins with what had been used already. -/
theorem usedBefore_zero {x : Try} (hx : (tries c s transports u)[0]? = some x) :
    x.usedBefore = u := by
  cases transports with
  | nil => cases hx
  | cons transport transports =>
    obtain rfl := Option.some.inj hx
    rfl

/-- Every attempt begins where the one before it ended. -/
theorem usedBefore_succ {j : Nat} {x y : Try} (hx : (tries c s transports u)[j]? = some x)
    (hy : (tries c s transports u)[j + 1]? = some y) : y.usedBefore = x.usedAfter := by
  induction transports generalizing u j with
  | nil => cases hx
  | cons transport transports ih =>
    cases j with
    | zero =>
      obtain rfl := Option.some.inj hx
      cases transports with
      | nil => cases hy
      | cons transport' transports =>
        obtain rfl := Option.some.inj hy
        rfl
    | succ j => exact ih hx hy

/-- Each of the attempts has a transport. -/
theorem exists_transport {j : Nat} {x : Try} (hx : (tries c s transports u)[j]? = some x) :
    ∃ transport, transports[j]? = some transport := by
  obtain ⟨hj, -⟩ := List.getElem?_eq_some_iff.mp hx
  rw [length_tries] at hj
  exact ⟨transports[j], List.getElem?_eq_getElem hj⟩

/-- Each of the attempts is a run over its own transport. -/
theorem run_of_getElem? {j : Nat} {x : Try} (hx : (tries c s transports u)[j]? = some x)
    (ht : transports[j]? = some transport) :
    (authenticate c transport).run s x.usedBefore = (x.attempt, x.usedAfter) := by
  induction transports generalizing u j with
  | nil => cases hx
  | cons first transports ih =>
    cases j with
    | zero =>
      obtain rfl := Option.some.inj hx
      obtain rfl := Option.some.inj ht
      rfl
    | succ j => exact ih hx ht

/-- If every attempt draws so many nonces, so many times as many are drawn before each. -/
theorem nonces_usedBefore (drawn : Nat)
    (hdraws : ∀ transport u, ((authenticate c transport).run s u).2.nonces = u.nonces + drawn)
    {j : Nat} {x : Try} (hx : (tries c s transports u)[j]? = some x) :
    x.usedBefore.nonces = u.nonces + drawn * j := by
  induction transports generalizing u j with
  | nil => cases hx
  | cons transport transports ih =>
    cases j with
    | zero =>
      obtain rfl := Option.some.inj hx
      rfl
    | succ j =>
      rw [ih hx, hdraws transport u, Nat.mul_succ, Nat.add_assoc, Nat.add_comm drawn]

/-- The signing attempts of a sequence take one nonce after the other. -/
theorem draws_getElem?_of_signing (h : Conversation.ofCredential c = .ok (.iam (.start c)))
    {j : Nat} {x : Try} (hx : (tries c s transports u)[j]? = some x) :
    x.usedBefore.nonces = u.nonces + j ∧ x.usedAfter.nonces = u.nonces + j + 1 ∧
      SendsNonce c (s.nonce (u.nonces + j)) x.attempt := by
  have hbefore : x.usedBefore.nonces = u.nonces + 1 * j :=
    nonces_usedBefore 1 (fun transport u => (draws_of_signing h transport s u).1) hx
  rw [Nat.one_mul] at hbefore
  obtain ⟨transport, ht⟩ := exists_transport hx
  obtain ⟨hafter, hsends⟩ := draws_of_signing h transport s x.usedBefore
  rw [run_of_getElem? hx ht, hbefore] at hafter hsends
  exact ⟨hbefore, hafter, hsends⟩

/-- The other attempts of a sequence take none. -/
theorem nonces_getElem?_of_quiet
    (h : (∃ e, Conversation.ofCredential c = .error e) ∨ c.mechanism = .plain) {j : Nat} {x : Try}
    (hx : (tries c s transports u)[j]? = some x) :
    x.usedBefore.nonces = u.nonces ∧ x.usedAfter.nonces = u.nonces := by
  have husage := usage_of_quiet h
  have hbefore : x.usedBefore.nonces = u.nonces + 0 * j :=
    nonces_usedBefore 0 (fun transport u => congrArg Usage.nonces (husage transport s u)) hx
  rw [Nat.zero_mul, Nat.add_zero] at hbefore
  obtain ⟨transport, ht⟩ := exists_transport hx
  have hafter : x.usedAfter = x.usedBefore := by
    rw [← husage transport s x.usedBefore, run_of_getElem? hx ht]
  exact ⟨hbefore, hafter ▸ hbefore⟩

/-! ## Isolation -/

/-- The attempt keeps to itself: it fetches at most once, no answer of the source but the one that
it fetched has a part in it, and it goes as it would alone in what was left when it began. -/
structure Isolated (c : Credential) (s : Surroundings) (transport : Transport) (x : Try) :
    Prop where
  once : x.usedAfter.fetches = x.usedBefore.fetches ∨
    x.usedAfter.fetches = x.usedBefore.fetches + 1
  ownAnswer : ∀ source : Nat → Except AuthError Metadata.Answer,
    (x.usedAfter.fetches = x.usedBefore.fetches + 1 →
      source x.usedBefore.fetches = s.source x.usedBefore.fetches) →
    (authenticate c transport).run { s with source := source } x.usedBefore =
      (x.attempt, x.usedAfter)
  alone : ((authenticate c transport).run (s.after x.usedBefore) {}).1 = x.attempt

theorem isolated_of_run {x : Try}
    (h : (authenticate c transport).run s x.usedBefore = (x.attempt, x.usedAfter)) :
    Isolated c s transport x := by
  have honce := fetches_authenticate c transport s x.usedBefore
  rw [h] at honce
  refine ⟨honce, ?_, ?_⟩
  · intro source hsource
    rw [← h]
    refine (confined_authenticate c transport).depends s _ x.usedBefore ?_
    rw [h]
    refine ⟨fun _ _ _ => rfl, fun _ _ _ => rfl, ?_⟩
    intro k hk hk'
    -- the only fetch is the one with the number of those before
    rcases honce with hnone | hone
    · omega
    · obtain rfl : k = x.usedBefore.fetches := by omega
      exact hsource hone
  · have halone := (confined_authenticate c transport).run_eq_run_after s x.usedBefore
    rw [h] at halone
    exact (congrArg Prod.fst halone).symm

/-- **Attempts are isolated.** For every credential, and attempts over any transports in any
surroundings: each begins where the one before it ended. A signing attempt that is not refused draws
exactly the next nonce and sends it in the field `r` of its first payload; attempts that are refused
and plain ones draw none. Each fetches at most once, depends on no other answer of the source, and
sends the same commands with the same result as it would alone with the answers that were left,
whatever came of the attempts before it. -/
theorem isolated (c : Credential) (s : Surroundings) (transports : List Transport) (u : Usage) :
    let run := tries c s transports u
    run.length = transports.length ∧
    (∀ x : Try, run[0]? = some x → x.usedBefore = u) ∧
    (∀ (j : Nat) (x y : Try), run[j]? = some x → run[j + 1]? = some y →
      y.usedBefore = x.usedAfter) ∧
    (∀ conversation, c.mechanism = .aws → Conversation.ofCredential c = .ok conversation →
      ∀ (j : Nat) (x : Try), run[j]? = some x →
        x.usedBefore.nonces = u.nonces + j ∧ x.usedAfter.nonces = u.nonces + j + 1 ∧
          SendsNonce c (s.nonce (u.nonces + j)) x.attempt) ∧
    ((∃ e, Conversation.ofCredential c = .error e) ∨ c.mechanism = .plain →
      ∀ (j : Nat) (x : Try), run[j]? = some x →
        x.usedBefore.nonces = u.nonces ∧ x.usedAfter.nonces = u.nonces) ∧
    ∀ (j : Nat) (x : Try) (transport : Transport), run[j]? = some x →
      transports[j]? = some transport → Isolated c s transport x := by
  intro run
  refine ⟨length_tries c s transports u, ?_, ?_, ?_, ?_, ?_⟩
  · intro x hx
    exact usedBefore_zero hx
  · intro j x y hx hy
    exact usedBefore_succ hx hy
  · intro conversation hmechanism hconversation j x hx
    exact draws_getElem?_of_signing (Conversation.ofCredential_of_aws hmechanism hconversation) hx
  · intro hquiet j x hx
    exact nonces_getElem?_of_quiet hquiet hx
  · intro j x transport hx ht
    exact isolated_of_run (run_of_getElem? hx ht)

/-- The second attempt fetches again behind a failed one, and with the next nonce. -/
example :
    let c : Credential := { mechanism := .aws }
    let transport : Transport := fun _ => .ok (.ofEntries
      [("ok", .int32 1), ("conversationId", .int32 7), ("done", .bool false),
        ("payload", .binary (Conversation.greeting "sts.amazonaws.com"
          (Nonce.counting.bytes ++ Nonce.counting.bytes)).encode)])
    let endpoint := "http://169.254.170.2/keys"
    let s : Surroundings := ⟨fun _ => .counting, fun _ => .ofMilliseconds 1704110400000,
      fun k => if k = 0 then .error (.credentialSource endpoint (.http .unreachable))
        else .ok ⟨endpoint, "[\"AKIDEXAMPLE\",\"secret\",\"token\"]"⟩⟩
    (tries c s [transport, transport] {}).map (·.usedAfter) = [⟨1, 0, 1⟩, ⟨2, 1, 2⟩] := by
  decide +kernel

end Attempt

end SaslClient
