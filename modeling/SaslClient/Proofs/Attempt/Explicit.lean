import SaslClient.Proofs.Attempt
import SaslClient.Proofs.Conversation.Explicit

/-!
# Attempts with explicit keys

An attempt for a credential with a username and a password makes no use of the source of key
documents, against any server: each round of the relay is one of a conversation for this credential.

Main results:

* `ignoresSource_relay`: the loop, by induction on its rounds.
* `explicit_ignores_source`: attempts and conversations with explicit keys are the same with any two
  sources, and fetch nothing.
-/

namespace SaslClient.Attempt

variable {transport : Transport} {database : String} {id : Int32} {s : Surroundings}
  {u u' : Usage} {r r' : Relay}

/-- A round that goes on leaves a conversation for the same credential. -/
theorem credential_of_goesOn (h : (round transport database id r).run s u = (.inr r', u')) :
    r'.conversation.credential = r.conversation.credential := by
  cases hcomplete : r.conversation.isComplete with
  | true =>
    rw [run_round_of_complete hcomplete] at h
    cases h
  | false =>
    cases hchallenge : challengeOf r.reply with
    | error e =>
      rw [run_round_of_unasked hcomplete hchallenge] at h
      cases h
    | ok challenge =>
      rw [run_round_of_asked hcomplete hchallenge] at h
      obtain ⟨-, hconversation⟩ := Relay.of_next_eq_inr (congrArg Prod.fst h)
      rw [hconversation, Conversation.credential_evaluate]

theorem ignoresSource_round (h : r.conversation.credential.hasPair = true) :
    (round transport database id r).IgnoresSource := by
  unfold round
  split
  · exact Act.ignoresSource_pure _
  · split <;> exact Act.ignoresSource_pure _
  · split
    · exact Act.ignoresSource_pure _
    · split
      · exact Act.ignoresSource_pure _
      · refine (Conversation.ignoresSource_evaluate h _).bind fun s u => ?_
        dsimp only
        split
        · exact Act.ignoresSource_pure _
        · split <;> exact Act.ignoresSource_pure _

/-- The relay makes no use of the source, however many rounds it has. -/
theorem ignoresSource_relay (rounds : Nat) (h : r.conversation.credential.hasPair = true) :
    (relay transport database id rounds r).IgnoresSource := by
  induction rounds generalizing r with
  | zero => exact Act.ignoresSource_pure _
  | succ rounds ih =>
    refine (ignoresSource_round h).bind fun s u => ?_
    rcases hround : (round transport database id r).run s u with ⟨ended | r', u'⟩
    · exact Act.ignoresSource_pure ended
    · have hcredential := credential_of_goesOn hround
      exact ih (hcredential ▸ h)

theorem ignoresSource_converse {conversation : Conversation}
    (h : conversation.credential.hasPair = true) :
    (converse transport database conversation).IgnoresSource := by
  unfold converse
  rw [Conversation.first_eq_evaluate]
  refine (Conversation.ignoresSource_evaluate h []).bind fun s u => ?_
  have hnext : ((conversation.evaluate []).run s u).1.2.credential.hasPair = true := by
    rw [Conversation.credential_evaluate]
    exact h
  dsimp only
  split
  · exact Act.ignoresSource_pure _
  · split
    · exact Act.ignoresSource_pure _
    · split
      · exact Act.ignoresSource_pure _
      · exact ignoresSource_relay _ hnext

/-- The conversation that a credential asks for is one for this credential. -/
theorem credential_ofCredential {c : Credential} {conversation : Conversation}
    (h : Conversation.ofCredential c = .ok conversation) : conversation.credential = c := by
  rcases Conversation.ofCredential_eq_ok_iff.mp h with ⟨-, -, rfl⟩ | ⟨-, -, rfl⟩ <;> rfl

theorem ignoresSource_authenticate {c : Credential} (h : c.hasPair = true) (transport : Transport) :
    (authenticate c transport).IgnoresSource := by
  unfold authenticate
  split
  next => exact Act.ignoresSource_pure _
  next conversation hconversation =>
    refine ignoresSource_converse ?_
    rw [credential_ofCredential hconversation]
    exact h

/-- **Explicit keys are never looked up.** With a username and a password in the credential, empty
or not, and whatever the mechanism, the nonces and the clock are: an attempt over any transport ends
the same, with the same commands, for any two sources of key documents, and fetches nothing. The
same is true of all sequences of calls of a conversation for this credential, in whatever state it
is: the messages, the errors and the conversation that is left do not depend on the source. -/
theorem explicit_ignores_source {c : Credential} {username password : String}
    (hu : c.username = some username) (hp : c.password = some password) (nonce : Nat → Nonce)
    (clock : Nat → Instant) (source source' : Nat → Except AuthError Metadata.Answer) (u : Usage) :
    let s : Surroundings := ⟨nonce, clock, source⟩
    let s' : Surroundings := ⟨nonce, clock, source'⟩
    (∀ transport : Transport,
      (authenticate c transport).run s' u = (authenticate c transport).run s u ∧
        ((authenticate c transport).run s u).2.fetches = u.fetches) ∧
    ∀ conversation : Conversation, conversation.credential = c → ∀ challenges : List Bytes,
      let run := conversation.askAll s challenges u
      let run' := conversation.askAll s' challenges u
      run'.outcomes = run.outcomes ∧ run'.conversation = run.conversation ∧
        run'.conversation.isComplete = run.conversation.isComplete ∧
        run'.usage = run.usage ∧ run.usage.fetches = u.fetches := by
  intro s s'
  have hpair : c.hasPair = true := Credential.hasPair_eq_true_iff.mpr ⟨username, password, hu, hp⟩
  constructor
  · intro transport
    exact ignoresSource_authenticate hpair transport s source' u
  · rintro conversation rfl challenges run run'
    obtain ⟨hrun, hfetches⟩ :=
      Conversation.askAll_ignores_source hpair s source' challenges u
    have hrun' : run' = run := hrun
    rw [hrun']
    exact ⟨rfl, rfl, rfl, rfl, hfetches⟩

/-- Empty texts as keys, with a session token, once with a source that is out of reach and once with
one that serves keys. -/
theorem explicit_ignores_source_of_empty :
    let c : Credential :=
      { mechanism := .aws
        username := some ""
        password := some ""
        properties := Properties.empty.set "AWS_SESSION_TOKEN" "token" }
    let challenge := (Document.ofFields
      [("h", .text "sts.amazonaws.com"),
        ("s", .binary (Nonce.counting.bytes ++ Nonce.counting.bytes))]).encode
    let transport : Transport := fun _ => .ok (.ofEntries
      [("ok", .int32 1), ("conversationId", .int32 7), ("done", .bool false),
        ("payload", .binary challenge)])
    let endpoint := "http://169.254.170.2/keys"
    let s : Surroundings := ⟨fun _ => .counting, fun _ => .ofMilliseconds 1704110400000,
      fun _ => .error (.credentialSource endpoint (.http .unreachable))⟩
    let s' : Surroundings := ⟨fun _ => .counting, fun _ => .ofMilliseconds 1704110400000,
      fun _ => .ok ⟨endpoint, "[\"AKIDEXAMPLE\",\"secret\",\"token\"]"⟩⟩
    (authenticate c transport).run s' {} = (authenticate c transport).run s {} ∧
      ((authenticate c transport).run s {}).2.fetches = 0 ∧
      ((Conversation.iam (.start c)).askAll s' [[], challenge] {}).outcomes =
        ((Conversation.iam (.start c)).askAll s [[], challenge] {}).outcomes := by
  intro c challenge transport endpoint s s'
  obtain ⟨hattempts, hruns⟩ := explicit_ignores_source (c := c) rfl rfl s.nonce s.clock s.source
    s'.source {}
  obtain ⟨hattempt, hfetches⟩ := hattempts transport
  obtain ⟨houtcomes, -⟩ := hruns (.iam (.start c)) rfl [[], challenge]
  exact ⟨hattempt, hfetches, houtcomes⟩

end SaslClient.Attempt
