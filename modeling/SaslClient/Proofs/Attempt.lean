import SaslClient.Attempt
import SaslClient.Proofs.Conversation.LifeCycle

/-!
# What an attempt does against any server

The server is only a transport: it may answer every command with any reply or error, and may let the
answer depend on all that was sent. An attempt relays the messages of its conversation in rounds.
`Ends` is the loop without a bound on the rounds. It is entered with one message made, and every
round that does not end it makes another one, so the bound in `relay` is never met (`ends_iff`).

Main results:

* `ends_iff`: the loop ends, and exactly with what the bounded relay gives.
* `run_authenticate_of_plain`, `run_authenticate_of_signing`: an attempt as a chain of at most two
  commands.
* `authenticate_contract`: which commands an attempt sends, and when it succeeds.
-/

namespace SaslClient

/-! ## New conversations -/

namespace Conversation

theorem run_evaluate_iam (i : Iam) (challenge : Bytes) (s : Surroundings) (u : Usage) :
    ((iam i).evaluate challenge).run s u =
      ((((i.evaluate challenge).run s u).1.1, iam ((i.evaluate challenge).run s u).1.2),
        ((i.evaluate challenge).run s u).2) := rfl

/-- The first message of a signing conversation, with the next nonce. -/
theorem run_evaluate_iam_start (c : Credential) (s : Surroundings) (u : Usage) :
    ((iam (.start c)).evaluate []).run s u =
      ((.ok (Iam.firstDocument (s.nonce u.nonces)).encode, iam (.greeted c (s.nonce u.nonces))),
        { u with nonces := u.nonces + 1 }) := by
  rw [run_evaluate_iam, Iam.run_evaluate_start]

/-- The first message of a plain conversation whose configuration can work. -/
theorem run_evaluate_plain_start {c : Credential} (h : Plain.check c = .ok ()) (s : Surroundings)
    (u : Usage) :
    ∃ first, ((plain (.start c)).evaluate []).run s u = ((.ok first, plain ⟨c, .complete⟩), u) := by
  obtain ⟨username, password, hu, hp⟩ := Plain.check_eq_ok_iff.mp h
  refine ⟨Plain.payload username password, ?_⟩
  unfold evaluate
  simp only [Plain.evaluate_start_of_pair hu hp, Act.run_pure]

/-- The credentials that there is a conversation for. -/
theorem ofCredential_eq_ok_iff {c : Credential} {conversation : Conversation} :
    ofCredential c = .ok conversation ↔
      c.mechanism = .aws ∧ Resolver.check c = .ok () ∧ conversation = .iam (.start c) ∨
      c.mechanism = .plain ∧ Plain.check c = .ok () ∧ conversation = .plain (.start c) := by
  have haws : Mechanism.aws.isBlank = false := by decide
  have hplain : Mechanism.plain.isBlank = false := by decide
  have hne : Mechanism.plain ≠ .aws := by decide
  unfold ofCredential
  by_cases h : c.mechanism = .aws
  · rw [h, haws, if_neg Bool.false_ne_true, if_pos rfl, Except.map_eq_ok_iff]
    constructor
    · rintro ⟨_, hcheck, rfl⟩
      exact .inl ⟨rfl, hcheck, rfl⟩
    · rintro (⟨-, hcheck, rfl⟩ | ⟨habsurd, -⟩)
      · exact ⟨(), hcheck, rfl⟩
      · exact absurd habsurd.symm hne
  · by_cases h' : c.mechanism = .plain
    · rw [h', hplain, if_neg Bool.false_ne_true, if_neg hne, if_pos rfl, Except.map_eq_ok_iff]
      constructor
      · rintro ⟨_, hcheck, rfl⟩
        exact .inr ⟨rfl, hcheck, rfl⟩
      · rintro (⟨habsurd, -⟩ | ⟨-, hcheck, rfl⟩)
        · exact absurd habsurd hne
        · exact ⟨(), hcheck, rfl⟩
    · rw [if_neg h, if_neg h']
      constructor
      · split <;> simp
      · rintro (⟨habsurd, -⟩ | ⟨habsurd, -⟩)
        · exact absurd habsurd h
        · exact absurd habsurd h'

/-- The conversation that a credential for signing asks for. -/
theorem ofCredential_of_aws {c : Credential} {conversation : Conversation}
    (hmechanism : c.mechanism = .aws) (h : ofCredential c = .ok conversation) :
    ofCredential c = .ok (.iam (.start c)) := by
  rcases ofCredential_eq_ok_iff.mp h with ⟨-, -, rfl⟩ | ⟨hplain, -⟩
  · exact h
  · rw [hmechanism] at hplain
    exact absurd hplain (by decide)

/-- The conversation that a credential for a plain exchange asks for. -/
theorem ofCredential_of_plain {c : Credential} {conversation : Conversation}
    (hmechanism : c.mechanism = .plain) (h : ofCredential c = .ok conversation) :
    ofCredential c = .ok (.plain (.start c)) := by
  rcases ofCredential_eq_ok_iff.mp h with ⟨haws, -⟩ | ⟨-, -, rfl⟩
  · rw [hmechanism] at haws
    exact absurd haws (by decide)
  · exact h

end Conversation

namespace Attempt

variable {transport : Transport} {database : String} {id : Int32} {s : Surroundings}
  {u u' : Usage} {r r' : Relay}

/-! ## Rounds -/

/-- The challenge that a reply gives to a client who has messages left. -/
def challengeOf (reply : Document) : Except AuthError Bytes :=
  match reply.getBool "done" with
  | .error e => .error (.document e)
  | .ok true => .error (.protocol .finishedEarly)
  | .ok false => (reply.getBinary "payload").mapError .document

/-- What a reply means to a client who has no message left. -/
def finish (reply : Document) (sent : List Command) : Attempt :=
  match reply.getBool "done" with
  | .error e => fail (.document e) sent
  | .ok true => ⟨.ok (), sent⟩
  | .ok false => fail (.protocol .noResponse) sent

theorem challengeOf_eq_ok_iff {reply : Document} {challenge : Bytes} :
    challengeOf reply = .ok challenge ↔
      reply.get? "done" = some (.bool false) ∧ reply.get? "payload" = some (.binary challenge) := by
  rw [← Document.getBool_eq_ok_iff, ← Document.getBinary_eq_ok_iff]
  unfold challengeOf
  rcases reply.getBool "done" with e | _ | _ <;> simp [Except.mapError_eq_ok_iff]

theorem sent_finish (reply : Document) (sent : List Command) : (finish reply sent).sent = sent := by
  unfold finish
  rcases reply.getBool "done" with e | _ | _ <;> rfl

theorem outcome_finish_eq_ok_iff {reply : Document} {sent : List Command} :
    (finish reply sent).outcome = .ok () ↔ reply.get? "done" = some (.bool true) := by
  rw [← Document.getBool_eq_ok_iff]
  unfold finish
  rcases reply.getBool "done" with e | _ | _ <;> simp [fail]

theorem run_round_of_complete (h : r.conversation.isComplete = true) (s : Surroundings)
    (u : Usage) :
    (round transport database id r).run s u = (.inl (finish r.reply r.sent), u) := by
  unfold round finish
  rcases r.reply.getBool "done" with e | _ | _
  · rfl
  · rw [h]; rfl
  · rw [h]; rfl

theorem run_round_of_unasked (h : r.conversation.isComplete = false) {e : AuthError}
    (hchallenge : challengeOf r.reply = .error e) (s : Surroundings) (u : Usage) :
    (round transport database id r).run s u = (.inl (fail e r.sent), u) := by
  unfold challengeOf at hchallenge
  unfold round
  rw [h]
  rcases hdone : r.reply.getBool "done" with e' | _ | _ <;> simp only [hdone] at hchallenge
  · cases hchallenge
    rfl
  · obtain ⟨fault, hfault, rfl⟩ := Except.mapError_eq_error_iff.mp hchallenge
    rw [hfault]
    rfl
  · cases hchallenge
    rfl

/-- The command with the next message. -/
def nextCommand (database : String) (id : Int32) (message : Bytes) : Command :=
  ⟨database, continueCommand id message⟩

/-- What a round comes to when the conversation was asked for the next message. -/
def Relay.next (transport : Transport) (database : String) (id : Int32) (r : Relay) :
    Except AuthError Bytes × Conversation → Attempt ⊕ Relay
  | (.error e, _) => .inl (fail e r.sent)
  | (.ok message, conversation) =>
    let sent := r.sent ++ [nextCommand database id message]
    match send transport sent with
    | .error e => .inl (fail e sent)
    | .ok reply => .inr ⟨conversation, reply, sent⟩

theorem run_round_of_asked (h : r.conversation.isComplete = false) {challenge : Bytes}
    (hchallenge : challengeOf r.reply = .ok challenge) (s : Surroundings) (u : Usage) :
    (round transport database id r).run s u =
      (r.next transport database id ((r.conversation.evaluate challenge).run s u).1,
        ((r.conversation.evaluate challenge).run s u).2) := by
  obtain ⟨hdone, hpayload⟩ := challengeOf_eq_ok_iff.mp hchallenge
  unfold round Relay.next nextCommand
  rw [h, Document.getBool_eq_ok_iff.mpr hdone, Document.getBinary_eq_ok_iff.mpr hpayload]
  simp only [Bool.false_eq_true, if_false, Act.run_bind]
  obtain ⟨⟨e | message, conversation⟩, u'⟩ := (r.conversation.evaluate challenge).run s u
  · rfl
  · simp only
    cases send transport (r.sent ++ [⟨database, continueCommand id message⟩]) <;> rfl

theorem Relay.next_eq_inl_of_error {message : Bytes} {e : AuthError}
    (h : send transport (r.sent ++ [nextCommand database id message]) = .error e)
    (conversation : Conversation) :
    r.next transport database id (.ok message, conversation) =
      .inl (fail e (r.sent ++ [nextCommand database id message])) := by
  unfold Relay.next
  simp only [h]

theorem Relay.next_eq_inr_of_ok {message : Bytes} {reply : Document}
    (h : send transport (r.sent ++ [nextCommand database id message]) = .ok reply)
    (conversation : Conversation) :
    r.next transport database id (.ok message, conversation) =
      .inr ⟨conversation, reply, r.sent ++ [nextCommand database id message]⟩ := by
  unfold Relay.next
  simp only [h]

/-- The relay goes on only behind a message, and then with the conversation that made it. -/
theorem Relay.of_next_eq_inr {step : Except AuthError Bytes × Conversation}
    (h : r.next transport database id step = .inr r') :
    (∃ message, step.1 = .ok message) ∧ r'.conversation = step.2 := by
  obtain ⟨e | message, conversation⟩ := step
  · cases h
  cases hsend : send transport (r.sent ++ [nextCommand database id message]) with
  | error e =>
    rw [Relay.next_eq_inl_of_error hsend] at h
    cases h
  | ok reply =>
    rw [Relay.next_eq_inr_of_ok hsend] at h
    cases h
    exact ⟨⟨message, rfl⟩, rfl⟩

/-! ## The loop -/

/-- The relay without a bound on its rounds: they follow each other until one ends the attempt. -/
inductive Ends (transport : Transport) (database : String) (id : Int32) (s : Surroundings) :
    Relay → Usage → Attempt → Usage → Prop
  | last {r : Relay} {u u' : Usage} {attempt : Attempt}
    (stops : (round transport database id r).run s u = (.inl attempt, u')) :
    Ends transport database id s r u attempt u'
  | next {r r' : Relay} {u u' u'' : Usage} {attempt : Attempt}
    (goesOn : (round transport database id r).run s u = (.inr r', u'))
    (rest : Ends transport database id s r' u' attempt u'') :
    Ends transport database id s r u attempt u''

theorem run_relay_of_stops {attempt : Attempt}
    (h : (round transport database id r).run s u = (.inl attempt, u')) (rounds : Nat) :
    (relay transport database id (rounds + 1) r).run s u = (attempt, u') := by
  unfold relay
  rw [Act.run_bind, h]
  rfl

theorem run_relay_of_goesOn (h : (round transport database id r).run s u = (.inr r', u'))
    (rounds : Nat) :
    (relay transport database id (rounds + 1) r).run s u =
      (relay transport database id rounds r').run s u' := by
  rw [relay, Act.run_bind, h]

/-- A round that goes on has made another message. -/
theorem progress_of_goesOn (h : (round transport database id r).run s u = (.inr r', u')) {k : Nat}
    (hk : r.conversation.progress = .made k) :
    k < r.conversation.limit ∧ r'.conversation.progress = .made (k + 1) ∧
      r'.conversation.limit = r.conversation.limit := by
  cases hcomplete : r.conversation.isComplete with
  | true =>
    rw [run_round_of_complete hcomplete] at h
    cases h
  | false =>
    cases hchallenge : challengeOf r.reply with
    | error e =>
      rw [run_round_of_unasked hcomplete hchallenge] at h
      cases h
    | ok challenge =>
      rw [run_round_of_asked hcomplete hchallenge] at h
      obtain ⟨⟨message, hmessage⟩, hconversation⟩ := Relay.of_next_eq_inr (congrArg Prod.fst h)
      obtain ⟨hadvances, -, hlimit⟩ := Conversation.evaluate_advances r.conversation challenge s u
      rw [hk, hmessage, ← hconversation] at hadvances
      rw [← hconversation] at hlimit
      -- of the calls, only one with room left gives a message
      generalize r'.conversation.progress = p at hadvances ⊢
      cases hadvances with
      | message room => exact ⟨room, rfl, hlimit⟩

/-- With more rounds than messages are left, the loop ends, and exactly with what the bounded relay
gives. -/
theorem ends_iff {rounds k : Nat} (hk : r.conversation.progress = .made k)
    (hrounds : r.conversation.limit < rounds + k) (hle : k ≤ r.conversation.limit)
    {attempt : Attempt} :
    Ends transport database id s r u attempt u' ↔
      (relay transport database id rounds r).run s u = (attempt, u') := by
  induction rounds generalizing r k u with
  | zero => omega
  | succ rounds ih =>
    rcases hround : (round transport database id r).run s u with ⟨ended | r', u₁⟩
    · rw [run_relay_of_stops hround]
      constructor
      · rintro (hstops | ⟨hgoesOn, -⟩)
        · rw [hround] at hstops
          cases hstops
          rfl
        · rw [hround] at hgoesOn
          cases hgoesOn
      · rintro ⟨⟩
        exact .last hround
    · obtain ⟨hroom, hprogress, hlimit⟩ := progress_of_goesOn hround hk
      rw [run_relay_of_goesOn hround, ← ih hprogress (by omega) (by omega)]
      constructor
      · rintro (hstops | ⟨hgoesOn, hends⟩)
        · rw [hround] at hstops
          cases hstops
        · rw [hround] at hgoesOn
          cases hgoesOn
          exact hends
      · exact .next hround

/-! ## Attempts without a loop -/

/-- What the reply to the first command opens: a conversation id, and the reply itself. -/
def opening (transport : Transport) (sent : List Command) :
    Except AuthError (Int32 × Document) := do
  let reply ← send transport sent
  let id ← (reply.getInt32 "conversationId").mapError .document
  .ok (id, reply)

theorem opening_eq_ok_iff {sent : List Command} {reply : Document} :
    opening transport sent = .ok (id, reply) ↔
      send transport sent = .ok reply ∧ reply.get? "conversationId" = some (.int32 id) := by
  unfold opening
  simp only [Except.bind_eq_ok_iff, Except.mapError_eq_ok_iff, Document.getInt32_eq_ok_iff]
  constructor
  · rintro ⟨reply', hsend, id', hid, ⟨⟩⟩
    exact ⟨hsend, hid⟩
  · rintro ⟨hsend, hid⟩
    exact ⟨reply, hsend, id, hid, rfl⟩

/-- What the next message of a client leads to when it is the last one. -/
def lastMessage (transport : Transport) (database : String) (id : Int32) (sent : List Command) :
    Except AuthError Bytes → Attempt
  | .error e => fail e sent
  | .ok message =>
    let sent := sent ++ [nextCommand database id message]
    match send transport sent with
    | .error e => fail e sent
    | .ok reply => finish reply sent

/-- What comes of an attempt is what comes of its conversation. -/
theorem authenticate_eq_converse {c : Credential} {conversation : Conversation}
    (h : Conversation.ofCredential c = .ok conversation) (transport : Transport) :
    authenticate c transport = converse transport c.source conversation := by
  unfold authenticate
  rw [h]

/-- An attempt that has no conversation sends nothing and uses nothing. -/
theorem run_authenticate_of_misconfigured {c : Credential} {e : AuthError}
    (h : Conversation.ofCredential c = .error e) (transport : Transport) (s : Surroundings)
    (u : Usage) : (authenticate c transport).run s u = (⟨.error e, []⟩, u) := by
  unfold authenticate
  rw [h]
  rfl

section Converse

variable {conversation begun : Conversation} {first : Bytes} {u₁ : Usage} {sent : List Command}

theorem run_converse_of_unopened
    (hfirst : (conversation.evaluate []).run s u = ((.ok first, begun), u₁)) {e : AuthError}
    (hopening : opening transport [⟨database, startCommand begun.mechanism first⟩] = .error e) :
    (converse transport database conversation).run s u =
      (fail e [⟨database, startCommand begun.mechanism first⟩], u₁) := by
  unfold converse
  rw [Conversation.first_eq_evaluate]
  simp only [Act.run_bind, hfirst]
  unfold opening at hopening
  rcases Except.bind_eq_error_iff.mp hopening with hsend | ⟨reply, hsend, hid⟩
  · rw [hsend]
    rfl
  · rw [hsend]
    rcases Except.bind_eq_error_iff.mp hid with hid | ⟨id, -, habsurd⟩
    · obtain ⟨fault, hfault, rfl⟩ := Except.mapError_eq_error_iff.mp hid
      simp only [hfault]
      rfl
    · cases habsurd

theorem run_converse_of_opened
    (hfirst : (conversation.evaluate []).run s u = ((.ok first, begun), u₁)) {reply : Document}
    (hopening : opening transport [⟨database, startCommand begun.mechanism first⟩] =
      .ok (id, reply)) :
    (converse transport database conversation).run s u =
      (relay transport database id Conversation.maxMessages
        ⟨begun, reply, [⟨database, startCommand begun.mechanism first⟩]⟩).run s u₁ := by
  obtain ⟨hsend, hid⟩ := opening_eq_ok_iff.mp hopening
  unfold converse
  rw [Conversation.first_eq_evaluate]
  simp only [Act.run_bind, hfirst, hsend, Document.getInt32_eq_ok_iff.mpr hid]

end Converse

/-- Behind its only message, a plain conversation is over with the first reply. -/
theorem run_relay_of_complete (h : r.conversation.isComplete = true) (s : Surroundings) (u : Usage)
    (rounds : Nat) :
    (relay transport database id (rounds + 1) r).run s u = (finish r.reply r.sent, u) :=
  run_relay_of_stops (run_round_of_complete h s u) rounds

/-- When the next message is the last one, the relay is over with the reply to it. -/
theorem run_relay_of_last (h : r.conversation.isComplete = false) {challenge : Bytes}
    (hchallenge : challengeOf r.reply = .ok challenge) {outcome : Except AuthError Bytes}
    {conversation : Conversation}
    (hstep : (r.conversation.evaluate challenge).run s u = ((outcome, conversation), u'))
    (hlast : ∀ message, outcome = .ok message → conversation.isComplete = true) (rounds : Nat) :
    (relay transport database id (rounds + 2) r).run s u =
      (lastMessage transport database id r.sent outcome, u') := by
  have hround : (round transport database id r).run s u =
      (r.next transport database id (outcome, conversation), u') := by
    rw [run_round_of_asked h hchallenge, hstep]
  cases outcome with
  | error e => exact run_relay_of_stops hround (rounds + 1)
  | ok message =>
    unfold lastMessage
    cases hsend : send transport (r.sent ++ [nextCommand database id message]) with
    | error e =>
      rw [Relay.next_eq_inl_of_error hsend] at hround
      simp only [hsend]
      exact run_relay_of_stops hround (rounds + 1)
    | ok reply =>
      rw [Relay.next_eq_inr_of_ok hsend] at hround
      simp only [hsend]
      rw [run_relay_of_goesOn hround]
      exact run_relay_of_complete (hlast message rfl) s u' rounds

/-- Behind the first message, a signing conversation has one message left. -/
theorem run_relay_greeted (c : Credential) (n : Nonce) (reply : Document) (sent : List Command)
    (s : Surroundings) (u : Usage) :
    (relay transport database id Conversation.maxMessages ⟨.iam (.greeted c n), reply, sent⟩).run
        s u =
      match challengeOf reply with
      | .error e => (fail e sent, u)
      | .ok challenge =>
        let step := ((Conversation.Iam.greeted c n).evaluate challenge).run s u
        (lastMessage transport database id sent step.1.1, step.2) := by
  cases hchallenge : challengeOf reply with
  | error e => exact run_relay_of_stops (run_round_of_unasked rfl hchallenge s u) 1
  | ok challenge =>
    have hstep := Conversation.run_evaluate_iam (.greeted c n) challenge s u
    refine run_relay_of_last rfl hchallenge hstep ?_ 0
    rw [Conversation.Iam.run_evaluate_greeted]
    intro message hmessage
    show (⟨_, Conversation.Iam.answered _⟩ : Conversation.Iam).isComplete = true
    rw [hmessage]
    rfl

/-- The first command is answered with success, a conversation id and a challenge. -/
def Challenges (transport : Transport) (start : Command) (id : Int32) (challenge : Bytes) : Prop :=
  ∃ reply, send transport [start] = .ok reply ∧
    reply.get? "conversationId" = some (.int32 id) ∧
    reply.get? "done" = some (.bool false) ∧ reply.get? "payload" = some (.binary challenge)

/-- What the reply to the first command asks for: a conversation id and a challenge. -/
def challenged (transport : Transport) (sent : List Command) :
    Except AuthError (Int32 × Bytes) := do
  let (id, reply) ← opening transport sent
  let challenge ← challengeOf reply
  .ok (id, challenge)

theorem challenges_iff {start : Command} {challenge : Bytes} :
    Challenges transport start id challenge ↔
      challenged transport [start] = .ok (id, challenge) := by
  simp only [Challenges, challenged, Except.bind_eq_ok_iff, Prod.exists, opening_eq_ok_iff,
    challengeOf_eq_ok_iff]
  constructor
  · rintro ⟨reply, hsend, hid, hdone, hpayload⟩
    exact ⟨id, reply, ⟨hsend, hid⟩, challenge, ⟨hdone, hpayload⟩, rfl⟩
  · rintro ⟨_, reply, ⟨hsend, hid⟩, _, ⟨hdone, hpayload⟩, ⟨⟩⟩
    exact ⟨reply, hsend, hid, hdone, hpayload⟩

theorem Challenges.unique {start : Command} {id' : Int32} {challenge challenge' : Bytes}
    (h : Challenges transport start id challenge) (h' : Challenges transport start id' challenge') :
    id' = id ∧ challenge' = challenge := by
  obtain ⟨reply, hsend, hid, -, hpayload⟩ := h
  obtain ⟨reply', hsend', hid', -, hpayload'⟩ := h'
  obtain rfl := Except.ok.inj (hsend.symm.trans hsend')
  rw [hid] at hid'
  rw [hpayload] at hpayload'
  cases hid'
  cases hpayload'
  exact ⟨rfl, rfl⟩

theorem sent_lastMessage (transport : Transport) (database : String) (id : Int32)
    (sent : List Command) (message : Bytes) :
    (lastMessage transport database id sent (.ok message)).sent =
      sent ++ [nextCommand database id message] := by
  unfold lastMessage
  simp only
  cases send transport (sent ++ [nextCommand database id message]) with
  | error e => rfl
  | ok reply => exact sent_finish reply _

/-- What the last message leads to is behind what was sent before. -/
theorem exists_sent_lastMessage (transport : Transport) (database : String) (id : Int32)
    (sent : List Command) (outcome : Except AuthError Bytes) :
    ∃ later, (lastMessage transport database id sent outcome).sent = sent ++ later := by
  cases outcome with
  | error e => exact ⟨[], (List.append_nil sent).symm⟩
  | ok message => exact ⟨_, sent_lastMessage transport database id sent message⟩

theorem outcome_lastMessage_eq_ok_iff {sent : List Command} {message : Bytes} :
    (lastMessage transport database id sent (.ok message)).outcome = .ok () ↔
      ∃ reply, send transport (sent ++ [nextCommand database id message]) = .ok reply ∧
        reply.get? "done" = some (.bool true) := by
  unfold lastMessage
  simp only
  cases hsend : send transport (sent ++ [nextCommand database id message]) with
  | error e => simp [fail]
  | ok reply => simp [outcome_finish_eq_ok_iff]

/-- The first command of a signing conversation, with its nonce. -/
def signingStart (c : Credential) (n : Nonce) : Command :=
  ⟨c.source, startCommand .aws (Conversation.Iam.firstDocument n).encode⟩

/-- A signing attempt ends with its first command if there is no challenge, and otherwise with the
answer to the challenge. -/
theorem run_authenticate_of_signing {c : Credential}
    (h : Conversation.ofCredential c = .ok (.iam (.start c))) (transport : Transport)
    (s : Surroundings) (u : Usage) :
    (authenticate c transport).run s u =
      let n := s.nonce u.nonces
      let u₁ := { u with nonces := u.nonces + 1 }
      match challenged transport [signingStart c n] with
      | .error e => (fail e [signingStart c n], u₁)
      | .ok (id, challenge) =>
        let step := ((Conversation.Iam.greeted c n).evaluate challenge).run s u₁
        (lastMessage transport c.source id [signingStart c n] step.1.1, step.2) := by
  have hfirst := Conversation.run_evaluate_iam_start c s u
  rw [authenticate_eq_converse h]
  unfold challenged
  rcases hopening : opening transport [signingStart c (s.nonce u.nonces)] with e | ⟨id, reply⟩
  · rw [run_converse_of_unopened hfirst hopening]
    simp only [hopening]
    rfl
  · rw [run_converse_of_opened hfirst hopening, run_relay_greeted]
    simp only [hopening, Except.ok_bind]
    cases challengeOf reply <;> rfl

/-- A signing attempt is challenged or not. -/
theorem run_authenticate_signing {c : Credential}
    (h : Conversation.ofCredential c = .ok (.iam (.start c))) (transport : Transport)
    (s : Surroundings) (u : Usage) :
    let n := s.nonce u.nonces
    let u₁ := { u with nonces := u.nonces + 1 }
    (∃ e, (∀ id challenge, ¬ Challenges transport (signingStart c n) id challenge) ∧
      (authenticate c transport).run s u = (fail e [signingStart c n], u₁)) ∨
    ∃ id challenge, Challenges transport (signingStart c n) id challenge ∧
      let step := ((Conversation.Iam.greeted c n).evaluate challenge).run s u₁
      (authenticate c transport).run s u =
        (lastMessage transport c.source id [signingStart c n] step.1.1, step.2) := by
  intro n u₁
  simp only [run_authenticate_of_signing h, challenges_iff]
  cases hchallenged : challenged transport [signingStart c n] with
  | error e => exact .inl ⟨e, by simp, rfl⟩
  | ok opened => exact .inr ⟨opened.1, opened.2, rfl, rfl⟩

/-- A plain attempt ends with the reply to its only command. -/
theorem run_authenticate_of_plain {c : Credential} {first : Bytes}
    (h : Conversation.ofCredential c = .ok (.plain (.start c))) (transport : Transport)
    {s : Surroundings} {u : Usage}
    (hfirst : ((Conversation.plain (.start c)).evaluate []).run s u =
      ((.ok first, .plain ⟨c, .complete⟩), u)) :
    (authenticate c transport).run s u =
      let start : Command := ⟨c.source, startCommand .plain first⟩
      (match opening transport [start] with
        | .error e => fail e [start]
        | .ok (_, reply) => finish reply [start], u) := by
  rw [authenticate_eq_converse h]
  rcases hopening : opening transport [⟨c.source, startCommand .plain first⟩] with e | ⟨id, reply⟩
  · rw [run_converse_of_unopened hfirst hopening]
    simp only [hopening]
    rfl
  · rw [run_converse_of_opened hfirst hopening]
    simp only [hopening]
    exact run_relay_of_complete rfl s u 1

/-- A plain attempt is opened by its server or not. -/
theorem run_authenticate_plain {c : Credential} {first : Bytes}
    (h : Conversation.ofCredential c = .ok (.plain (.start c))) (transport : Transport)
    {s : Surroundings} {u : Usage}
    (hfirst : ((Conversation.plain (.start c)).evaluate []).run s u =
      ((.ok first, .plain ⟨c, .complete⟩), u)) :
    let start : Command := ⟨c.source, startCommand .plain first⟩
    (∃ e, (∀ id reply, opening transport [start] ≠ .ok (id, reply)) ∧
      (authenticate c transport).run s u = (fail e [start], u)) ∨
    ∃ id reply, opening transport [start] = .ok (id, reply) ∧
      (authenticate c transport).run s u = (finish reply [start], u) := by
  intro start
  simp only [run_authenticate_of_plain h transport hfirst]
  cases hopening : opening transport [start] with
  | error e => exact .inl ⟨e, by simp, rfl⟩
  | ok opened => exact .inr ⟨opened.1, opened.2, rfl, rfl⟩

/-! ## The contract -/

/-- A plain attempt sends one command. It succeeds exactly if the reply reports success, has a
conversation id and is done. -/
def PlainContract (transport : Transport) (start : Command) (attempt : Attempt) : Prop :=
  attempt.sent = [start] ∧
  (attempt.outcome = .ok () ↔
    ∃ reply id, send transport [start] = .ok reply ∧
      reply.get? "conversationId" = some (.int32 id) ∧ reply.get? "done" = some (.bool true))

/-- A signing attempt sends a second command exactly for a challenge that the second step answers.
It succeeds exactly if the reply to this command reports success and is done. If the second step
fails, so does the attempt, with the same error and nothing else sent. -/
def SigningContract (transport : Transport) (start : Command)
    (second : Bytes → Except AuthError Bytes) (next : Int32 → Bytes → Command) (attempt : Attempt) :
    Prop :=
  (attempt.sent = [start] ∧
      (∀ id challenge message, Challenges transport start id challenge →
        second challenge ≠ .ok message) ∨
    ∃ id challenge message, Challenges transport start id challenge ∧
      second challenge = .ok message ∧ attempt.sent = [start, next id message]) ∧
  (attempt.outcome = .ok () ↔
    ∃ id challenge message reply, Challenges transport start id challenge ∧
      second challenge = .ok message ∧ send transport [start, next id message] = .ok reply ∧
      reply.get? "done" = some (.bool true)) ∧
  (∀ id challenge e, Challenges transport start id challenge → second challenge = .error e →
    attempt = ⟨.error e, [start]⟩)

theorem plainContract_of_unopened {start : Command}
    (h : ∀ id reply, opening transport [start] ≠ .ok (id, reply)) (e : AuthError) :
    PlainContract transport start (fail e [start]) := by
  refine ⟨rfl, ?_⟩
  constructor
  · intro habsurd
    cases habsurd
  · rintro ⟨reply, id, hsend, hid, -⟩
    exact absurd (opening_eq_ok_iff.mpr ⟨hsend, hid⟩) (h id reply)

theorem plainContract_finish {start : Command} {reply : Document}
    (h : opening transport [start] = .ok (id, reply)) :
    PlainContract transport start (finish reply [start]) := by
  obtain ⟨hsend, hid⟩ := opening_eq_ok_iff.mp h
  refine ⟨sent_finish reply _, ?_⟩
  rw [outcome_finish_eq_ok_iff]
  constructor
  · intro hdone
    exact ⟨reply, id, hsend, hid, hdone⟩
  · rintro ⟨reply', id', hsend', -, hdone⟩
    obtain rfl := Except.ok.inj (hsend.symm.trans hsend')
    exact hdone

theorem signingContract_of_unchallenged {start : Command}
    (h : ∀ id challenge, ¬ Challenges transport start id challenge)
    (second : Bytes → Except AuthError Bytes) (next : Int32 → Bytes → Command) (e : AuthError) :
    SigningContract transport start second next (fail e [start]) := by
  refine ⟨.inl ⟨rfl, ?_⟩, ?_, ?_⟩
  · intro id challenge message hchallenges
    exact absurd hchallenges (h id challenge)
  · constructor
    · intro habsurd
      cases habsurd
    · rintro ⟨id, challenge, -, -, hchallenges, -⟩
      exact absurd hchallenges (h id challenge)
  · intro id challenge _ hchallenges
    exact absurd hchallenges (h id challenge)

theorem signingContract_lastMessage {start : Command} {challenge : Bytes}
    (h : Challenges transport start id challenge) (second : Bytes → Except AuthError Bytes) :
    SigningContract transport start second (nextCommand database)
      (lastMessage transport database id [start] (second challenge)) := by
  cases hsecond : second challenge with
  | error e =>
    refine ⟨.inl ⟨rfl, ?_⟩, ?_, ?_⟩
    · intro id' challenge' message hchallenges
      obtain ⟨rfl, rfl⟩ := h.unique hchallenges
      simp [hsecond]
    · constructor
      · intro habsurd
        cases habsurd
      · rintro ⟨id', challenge', message, -, hchallenges, hmessage, -⟩
        obtain ⟨rfl, rfl⟩ := h.unique hchallenges
        rw [hsecond] at hmessage
        cases hmessage
    · intro id' challenge' e' hchallenges herror
      obtain ⟨rfl, rfl⟩ := h.unique hchallenges
      obtain rfl := Except.error.inj (hsecond.symm.trans herror)
      rfl
  | ok message =>
    refine ⟨.inr ⟨id, challenge, message, h, hsecond, sent_lastMessage ..⟩, ?_, ?_⟩
    · rw [outcome_lastMessage_eq_ok_iff]
      constructor
      · rintro ⟨reply, hsend, hdone⟩
        exact ⟨id, challenge, message, reply, h, hsecond, hsend, hdone⟩
      · rintro ⟨id', challenge', message', reply, hchallenges, hmessage, hsend, hdone⟩
        obtain ⟨rfl, rfl⟩ := h.unique hchallenges
        obtain rfl := Except.ok.inj (hsecond.symm.trans hmessage)
        exact ⟨reply, hsend, hdone⟩
    · intro id' challenge' e hchallenges herror
      obtain ⟨rfl, rfl⟩ := h.unique hchallenges
      rw [hsecond] at herror
      cases herror

/-- The loop ends whenever it is entered, and what it ends with is what comes of the attempt. -/
theorem ends_authenticate {c : Credential} {conversation begun : Conversation} {first : Bytes}
    {u₁ : Usage} (h : Conversation.ofCredential c = .ok conversation)
    (hfirst : (conversation.evaluate []).run s u = ((.ok first, begun), u₁))
    (hbegun : begun.progress = .made 1) {reply : Document}
    (hopening : opening transport [⟨c.source, startCommand begun.mechanism first⟩] =
      .ok (id, reply)) :
    Ends transport c.source id s ⟨begun, reply, [⟨c.source, startCommand begun.mechanism first⟩]⟩ u₁
      ((authenticate c transport).run s u).1 ((authenticate c transport).run s u).2 := by
  have hrounds : begun.limit < Conversation.maxMessages + 1 :=
    Nat.lt_succ_of_le begun.limit_le_maxMessages
  rw [authenticate_eq_converse h, run_converse_of_opened hfirst hopening]
  exact (ends_iff hbegun hrounds begun.limit_pos).mpr rfl

/-- **The contract of an attempt.** For every conversation that a credential asks for, with any
surroundings and any server: the first message is made; if the reply to it opens a conversation, the
loop ends with the attempt's result; and the commands, their database, and success are as the
contract of the mechanism says. -/
theorem authenticate_contract {c : Credential} {conversation : Conversation}
    (h : Conversation.ofCredential c = .ok conversation) (transport : Transport)
    (s : Surroundings) (u : Usage) :
    ∃ (first : Bytes) (begun : Conversation) (u₁ : Usage),
      (conversation.evaluate []).run s u = ((.ok first, begun), u₁) ∧
      let result := (authenticate c transport).run s u
      let start : Command := ⟨c.source, .ofEntries
        [("saslStart", .int32 1), ("mechanism", .text c.mechanism.name),
          ("payload", .binary first)]⟩
      let next (id : Int32) (message : Bytes) : Command := ⟨c.source, .ofEntries
        [("saslContinue", .int32 1), ("conversationId", .int32 id),
          ("payload", .binary message)]⟩
      (∀ reply id, send transport [start] = .ok reply →
        reply.get? "conversationId" = some (.int32 id) →
        Ends transport c.source id s ⟨begun, reply, [start]⟩ u₁ result.1 result.2) ∧
      (c.mechanism = .plain ∧ PlainContract transport start result.1 ∨
        c.mechanism = .aws ∧ SigningContract transport start
          (fun challenge => ((begun.evaluate challenge).run s u₁).1.1) next result.1) := by
  rcases Conversation.ofCredential_eq_ok_iff.mp h with
    ⟨hmechanism, -, rfl⟩ | ⟨hmechanism, hcheck, rfl⟩
  · have hfirst := Conversation.run_evaluate_iam_start c s u
    refine ⟨_, _, _, hfirst, ?_, .inr ⟨hmechanism, ?_⟩⟩
    · intro reply id hsend hid
      rw [hmechanism] at hsend ⊢
      exact ends_authenticate h hfirst rfl (opening_eq_ok_iff.mpr ⟨hsend, hid⟩)
    · rw [hmechanism]
      rcases run_authenticate_signing h transport s u with
        ⟨e, hunchallenged, hresult⟩ | ⟨id, challenge, hchallenges, hresult⟩
      · rw [hresult]
        exact signingContract_of_unchallenged hunchallenged _ _ e
      · rw [hresult]
        exact signingContract_lastMessage hchallenges
          (fun challenge => (((Conversation.Iam.greeted c (s.nonce u.nonces)).evaluate challenge).run
            s { u with nonces := u.nonces + 1 }).1.1)
  · obtain ⟨first, hfirst⟩ := Conversation.run_evaluate_plain_start hcheck s u
    refine ⟨first, _, _, hfirst, ?_, .inl ⟨hmechanism, ?_⟩⟩
    · intro reply id hsend hid
      rw [hmechanism] at hsend ⊢
      exact ends_authenticate h hfirst rfl (opening_eq_ok_iff.mpr ⟨hsend, hid⟩)
    · rw [hmechanism]
      rcases run_authenticate_plain h transport hfirst with
        ⟨e, hunopened, hresult⟩ | ⟨id, reply, hopened, hresult⟩
      · rw [hresult]
        exact plainContract_of_unopened hunopened e
      · rw [hresult]
        exact plainContract_finish hopened

/-- A signing attempt with a server that is done behind the second command. -/
theorem authenticate_contract_of_second :
    let c : Credential :=
      { mechanism := .aws, username := some "AKIDEXAMPLE", password := some "secret" }
    let challenge := (Document.ofFields
      [("h", .text "sts.amazonaws.com"),
        ("s", .binary (Nonce.counting.bytes ++ Nonce.counting.bytes))]).encode
    let reply (done : Bool) : Document := .ofEntries
      [("ok", .int32 1), ("conversationId", .int32 7), ("done", .bool done),
        ("payload", .binary challenge)]
    let transport : Transport := fun sent => .ok (reply (sent.length == 2))
    let s : Surroundings := ⟨fun _ => .counting, fun _ => .ofMilliseconds 1704110400000,
      fun _ => .error .conversationAborted⟩
    let attempt := ((authenticate c transport).run s {}).1
    attempt.outcome = .ok () ∧ attempt.sent.length = 2 := by
  intro c challenge reply transport s attempt
  have hconversation : Conversation.ofCredential c = .ok (.iam (.start c)) :=
    Except.toOption_eq_some_iff.mp (by decide +kernel)
  have hchecked (done : Bool) : Reply.check (reply done) = .ok (reply done) := by
    cases done <;> exact Except.toOption_eq_some_iff.mp (by decide +kernel)
  have haccepted : Conversation.ServerFirst.Accepted .counting challenge
      ⟨"sts.amazonaws.com", Nonce.counting.bytes ++ Nonce.counting.bytes⟩ :=
    Conversation.ServerFirst.read_eq_ok_iff.mp (Except.toOption_eq_some_iff.mp (by decide +kernel))
  have hdate : Signing.dateOf? (s.clock 0).timestamp = some "20240101" := by decide +kernel
  have hrun := Resolver.run_resolve_of_pair (r := { credential := c }) rfl rfl s { nonces := 1 }
  obtain ⟨message, hmessage⟩ := Conversation.Iam.exists_message (c := c) (s := s)
    (u := { nonces := 1 }) haccepted (congrArg (·.1.1) hrun) rfl hdate
  obtain ⟨first, begun, u₁, hfirst, -, ⟨habsurd, -⟩ | ⟨-, hsent, hsuccess, -⟩⟩ :=
    authenticate_contract hconversation transport s {}
  · exact absurd habsurd (by decide)
  rw [Conversation.run_evaluate_iam_start] at hfirst
  cases hfirst
  have hchallenges (start : Command) : Challenges transport start 7 challenge :=
    ⟨reply false, hchecked false, rfl, rfl, rfl⟩
  refine ⟨hsuccess.mpr ⟨7, challenge, message, reply true, hchallenges _, hmessage, hchecked true,
    rfl⟩, ?_⟩
  rcases hsent with ⟨-, hnone⟩ | ⟨id, challenge', message', -, -, htwo⟩
  · exact absurd hmessage (hnone 7 challenge message (hchallenges _))
  · exact congrArg List.length htwo

end Attempt

end SaslClient
