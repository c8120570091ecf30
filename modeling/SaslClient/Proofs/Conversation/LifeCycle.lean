import SaslClient.Conversation.Basic
import SaslClient.Proofs.Conversation.Iam

/-!
# The life of a conversation

A conversation can be asked for messages any number of times, with any challenges. It makes its
messages first, at most `limit` of them. The first call without a message ends it, and every later
call is told so.

The proof goes through an abstract machine that only counts messages: every call of a conversation
is a step of the machine (`evaluate_advances`), so every run is a course of it (`askAll_course`),
and the courses have the shape that is claimed of the runs (`Course.lifeCycle`).

Main results:

* `evaluate_advances`: one call makes a message and counts it, or ends the conversation.
* `isFrugal_evaluate`: what one call uses depends on how many messages were made before it.
* `life_cycle`: the outcomes of all calls of a new conversation, and what each of them uses.
-/

namespace SaslClient.Conversation

/-! ## Counting messages -/

/-- How far a conversation is. -/
inductive Progress where
  | made (messages : Nat)
  | failed
deriving DecidableEq

/-- The number of messages that a client has in a conversation. -/
def limit : Conversation → Nat
  | .iam _ => 2
  | .plain _ => 1

theorem limit_pos (c : Conversation) : 0 < c.limit := by
  cases c with
  | iam i => exact Nat.two_pos
  | plain p => exact Nat.one_pos

theorem limit_le_maxMessages (c : Conversation) : c.limit ≤ maxMessages := by
  cases c with
  | iam i => exact Nat.le_refl 2
  | plain p => exact Nat.le_succ 1

/-- How many messages a conversation has made, unless it failed. -/
def progress : Conversation → Progress
  | .iam c =>
    match c.phase with
    | .notStarted => .made 0
    | .awaitingServerFirst _ => .made 1
    | .complete => .made 2
    | .failed => .failed
  | .plain c =>
    match c.phase with
    | .notStarted => .made 0
    | .complete => .made 1
    | .failed => .failed

/-- One call of a conversation that has `limit` messages. -/
inductive Advances (m : Mechanism) (limit : Nat) :
    Progress → Except AuthError Bytes → Progress → Prop
  | message {k : Nat} {bytes : Bytes} (room : k < limit) :
    Advances m limit (.made k) (.ok bytes) (.made (k + 1))
  | failure {k : Nat} {e : AuthError} (room : k < limit) :
    Advances m limit (.made k) (.error e) .failed
  | tooMany : Advances m limit (.made limit) (.error (.tooManySteps m.name)) .failed
  | aborted : Advances m limit .failed (.error .conversationAborted) .failed

theorem isComplete_iff (c : Conversation) : c.isComplete = true ↔ c.progress = .made c.limit := by
  rcases c with ⟨r, phase⟩ | ⟨credential, phase⟩ <;> cases phase <;>
    simp [isComplete, Iam.isComplete, Plain.isComplete, progress, limit]

theorem advances_iam (i : Iam) (challenge : Bytes) (s : Surroundings) (u : Usage) :
    Advances .aws 2 (iam i).progress ((i.evaluate challenge).run s u).1.1
      (iam ((i.evaluate challenge).run s u).1.2).progress := by
  obtain ⟨resolver, phase⟩ := i
  cases phase with
  | notStarted => exact .message Nat.two_pos
  | awaitingServerFirst n =>
    rw [Iam.run_evaluate_awaiting rfl]
    obtain ⟨⟨outcome, resolver'⟩, u'⟩ := (Iam.answer resolver n challenge).run s u
    cases outcome with
    | ok message => exact .message Nat.one_lt_two
    | error e => exact .failure Nat.one_lt_two
  | complete =>
    rw [Iam.run_evaluate_complete rfl]
    exact .tooMany
  | failed =>
    rw [Iam.run_evaluate_failed rfl]
    exact .aborted

theorem Plain.evaluate_start_of_pair {c : Credential} {username password : String}
    (hu : c.username = some username) (hp : c.password = some password) :
    (Plain.start c).evaluate = (.ok (Plain.payload username password), ⟨c, .complete⟩) := by
  have hmessage : Plain.message c = .ok (Plain.payload username password) := by
    unfold Plain.message
    rw [hu, hp]
  unfold Plain.evaluate Plain.start
  simp only [hmessage]

theorem Plain.evaluate_start_of_not_pair {c : Credential} (h : c.hasPair = false) :
    (Plain.start c).evaluate = (.error (.config .plainWithoutPair), ⟨c, .failed⟩) := by
  have hmessage : Plain.message c = .error (.config .plainWithoutPair) := by
    unfold Plain.message
    rcases Credential.hasPair_eq_false_iff.mp h with hu | hp
    · rw [hu]
    · rw [hp]
      cases c.username <;> rfl
  unfold Plain.evaluate Plain.start
  simp only [hmessage]

theorem Plain.check_eq_ok_iff {c : Credential} :
    Plain.check c = .ok () ↔
      ∃ username password, c.username = some username ∧ c.password = some password := by
  rw [← Credential.hasPair_eq_true_iff]
  unfold Plain.check
  cases c.hasPair <;> simp

/-- The first call of a plain conversation makes a message exactly if there is a pair to send. -/
theorem Plain.exists_message_iff (c : Credential) :
    (∃ message, (Plain.start c).evaluate.1 = .ok message) ↔
      ∃ username password, c.username = some username ∧ c.password = some password := by
  constructor
  · rintro ⟨message, hmessage⟩
    cases hpair : c.hasPair with
    | false =>
      rw [Plain.evaluate_start_of_not_pair hpair] at hmessage
      cases hmessage
    | true => exact Credential.hasPair_eq_true_iff.mp hpair
  · rintro ⟨username, password, hu, hp⟩
    rw [Plain.evaluate_start_of_pair hu hp]
    exact ⟨_, rfl⟩

theorem advances_plain (p : Plain) :
    Advances .plain 1 (plain p).progress p.evaluate.1 (plain p.evaluate.2).progress := by
  obtain ⟨credential, phase⟩ := p
  cases phase with
  | notStarted =>
    unfold Plain.evaluate
    cases Plain.message credential with
    | ok message => exact .message Nat.one_pos
    | error e => exact .failure Nat.one_pos
  | complete => exact .tooMany
  | failed => exact .aborted

/-- One call makes a message and counts it, or ends the conversation. -/
theorem evaluate_advances (c : Conversation) (challenge : Bytes) (s : Surroundings) (u : Usage) :
    let r := ((c.evaluate challenge).run s u).1
    Advances c.mechanism c.limit c.progress r.1 r.2.progress ∧
      r.2.mechanism = c.mechanism ∧ r.2.limit = c.limit := by
  cases c with
  | iam i => exact ⟨advances_iam i challenge s u, rfl, rfl⟩
  | plain p => exact ⟨advances_plain p, rfl, rfl⟩

/-! ## Courses of the machine -/

/-- Any number of calls, one after the other. -/
inductive Course (m : Mechanism) (limit : Nat) :
    Progress → List (Except AuthError Bytes) → Progress → Prop
  | nil {p : Progress} : Course m limit p [] p
  | cons {p p' p'' : Progress} {outcome : Except AuthError Bytes}
    {outcomes : List (Except AuthError Bytes)} (call : Advances m limit p outcome p')
    (rest : Course m limit p' outcomes p'') : Course m limit p (outcome :: outcomes) p''

/-- The outcomes of a conversation's calls: messages, at most `limit` of them, and behind them
failures. The first failure names the mechanism if all messages were made before, and the other
failures only say that there was one. The conversation is complete exactly if its last message was
made and nothing was asked since. -/
def LifeCycle (m : Mechanism) (limit : Nat) (outcomes : List (Except AuthError Bytes))
    (complete : Bool) : Prop :=
  ∃ (messages : List Bytes) (failures : List AuthError),
    outcomes = messages.map .ok ++ failures.map .error ∧
    messages.length ≤ limit ∧
    (∀ e rest, failures = e :: rest →
      (messages.length = limit → e = .tooManySteps m.name) ∧
        ∀ e' ∈ rest, e' = .conversationAborted) ∧
    (complete = true ↔ outcomes.length = limit ∧ failures = [])

namespace Course

variable {m : Mechanism} {limit : Nat} {p : Progress} {outcomes : List (Except AuthError Bytes)}

/-- After a failure, every call says that there was one. -/
theorem of_failed (h : Course m limit .failed outcomes p) :
    p = .failed ∧ ∃ failures : List AuthError, outcomes = failures.map .error ∧
      ∀ e ∈ failures, e = .conversationAborted := by
  induction outcomes with
  | nil =>
    cases h
    exact ⟨rfl, [], rfl, by simp⟩
  | cons outcome outcomes ih =>
    obtain _ | ⟨⟨⟩, hrest⟩ := h
    obtain ⟨hp, failures, houtcomes, hall⟩ := ih hrest
    refine ⟨hp, .conversationAborted :: failures, by rw [houtcomes]; rfl, ?_⟩
    simpa using hall

/-- A course from `k` messages on ends after the others, or has the failures behind them. -/
theorem split {k : Nat} (h : Course m limit (.made k) outcomes p) (hk : k ≤ limit) :
    ∃ (messages : List Bytes) (failures : List AuthError),
      outcomes = messages.map .ok ++ failures.map .error ∧
      k + messages.length ≤ limit ∧
      (∀ e rest, failures = e :: rest →
        (k + messages.length = limit → e = .tooManySteps m.name) ∧
          ∀ e' ∈ rest, e' = .conversationAborted) ∧
      (p = .made limit ↔ k + outcomes.length = limit ∧ failures = []) := by
  induction outcomes generalizing k with
  | nil =>
    cases h
    exact ⟨[], [], rfl, hk, by simp, by simp⟩
  | cons outcome outcomes ih =>
    obtain _ | ⟨hcall, hrest⟩ := h
    cases hcall with
    | message room =>
      obtain ⟨messages, failures, rfl, hlength, hfailures, hcomplete⟩ := ih hrest room
      refine ⟨_ :: messages, failures, rfl, ?_, ?_, ?_⟩
      · rw [List.length_cons]
        omega
      · rw [List.length_cons, ← Nat.add_assoc, Nat.add_right_comm]
        exact hfailures
      · rw [hcomplete, List.length_cons, ← Nat.add_assoc, Nat.add_right_comm]
    | failure room =>
      obtain ⟨rfl, rest, rfl, hall⟩ := of_failed hrest
      refine ⟨[], _ :: rest, rfl, hk, ?_, by simp⟩
      rintro e rest' ⟨rfl, rfl⟩
      refine ⟨fun hfull => ?_, hall⟩
      rw [List.length_nil] at hfull
      omega
    | tooMany =>
      obtain ⟨rfl, rest, rfl, hall⟩ := of_failed hrest
      refine ⟨[], _ :: rest, rfl, hk, ?_, by simp⟩
      rintro e rest' ⟨rfl, rfl⟩
      exact ⟨fun _ => rfl, hall⟩

/-- The courses from the start have the shape of a life cycle. -/
theorem lifeCycle {complete : Bool} (h : Course m limit (.made 0) outcomes p)
    (hp : complete = true ↔ p = .made limit) : LifeCycle m limit outcomes complete := by
  obtain ⟨messages, failures, houtcomes, hlength, hfailures, hcomplete⟩ := h.split (Nat.zero_le _)
  rw [Nat.zero_add] at hlength hfailures hcomplete
  exact ⟨messages, failures, houtcomes, hlength, hfailures, hp.trans hcomplete⟩

end Course

/-! ## Runs of a conversation -/

/-- One call of a conversation, with what had been used before it and after it. -/
structure Call where
  outcome : Except AuthError Bytes
  before : Usage
  after : Usage

/-- What some calls gave, and how they left the conversation and the usage. -/
structure Run where
  calls : List Call
  conversation : Conversation
  usage : Usage

/-- The outcomes of the calls, in order. -/
def Run.outcomes (r : Run) : List (Except AuthError Bytes) :=
  r.calls.map (·.outcome)

/-- Asks a conversation for one message for each challenge, whatever came of the earlier ones. -/
def askAll (c : Conversation) (s : Surroundings) : List Bytes → Usage → Run
  | [], u => ⟨[], c, u⟩
  | challenge :: challenges, u =>
    let step := (c.evaluate challenge).run s u
    let rest := askAll step.1.2 s challenges step.2
    ⟨⟨step.1.1, u, step.2⟩ :: rest.calls, rest.conversation, rest.usage⟩

theorem length_calls (s : Surroundings) (challenges : List Bytes) (c : Conversation) (u : Usage) :
    (c.askAll s challenges u).calls.length = challenges.length := by
  induction challenges generalizing c u with
  | nil => rfl
  | cons challenge challenges ih => exact congrArg (· + 1) (ih _ _)

/-- Every run is a course of the machine that counts messages. -/
theorem askAll_course (s : Surroundings) (challenges : List Bytes) (c : Conversation) (u : Usage) :
    Course c.mechanism c.limit c.progress (c.askAll s challenges u).outcomes
        (c.askAll s challenges u).conversation.progress ∧
      (c.askAll s challenges u).conversation.limit = c.limit := by
  induction challenges generalizing c u with
  | nil => exact ⟨.nil, rfl⟩
  | cons challenge challenges ih =>
    obtain ⟨hcall, hmechanism, hlimit⟩ := evaluate_advances c challenge s u
    obtain ⟨hrest, hlimit'⟩ := ih ((c.evaluate challenge).run s u).1.2
      ((c.evaluate challenge).run s u).2
    rw [hmechanism, hlimit] at hrest
    exact ⟨.cons hcall hrest, hlimit'.trans hlimit⟩

/-- The runs of a conversation that has not begun have the shape of a life cycle. -/
theorem lifeCycle_askAll {c : Conversation} (h : c.progress = .made 0) (s : Surroundings)
    (challenges : List Bytes) (u : Usage) :
    LifeCycle c.mechanism c.limit (c.askAll s challenges u).outcomes
      (c.askAll s challenges u).conversation.isComplete := by
  obtain ⟨hcourse, hlimit⟩ := askAll_course s challenges c u
  rw [h] at hcourse
  refine hcourse.lifeCycle ?_
  rw [isComplete_iff, hlimit]

/-! ## What the calls use -/

/-- The `j`-th call of a signing conversation, counted from zero: only the first draws a nonce, and
only the second fetches, at most once. -/
structure Call.IsFrugal (j : Nat) (call : Call) : Prop where
  nonces : j ≠ 0 → call.after.nonces = call.before.nonces
  fetches : j ≠ 1 → call.after.fetches = call.before.fetches
  once : call.after.fetches = call.before.fetches ∨ call.after.fetches = call.before.fetches + 1

theorem isFrugal_evaluate {i : Iam} {k : Nat}
    (h : (iam i).progress = .made k ∨ (iam i).progress = .failed) (challenge : Bytes)
    (s : Surroundings) (u : Usage) :
    Call.IsFrugal k
      ⟨((i.evaluate challenge).run s u).1.1, u, ((i.evaluate challenge).run s u).2⟩ := by
  obtain ⟨resolver, phase⟩ := i
  cases phase with
  | notStarted =>
    obtain rfl : k = 0 := by simpa [progress, eq_comm] using h
    exact ⟨fun hk => absurd rfl hk, fun _ => rfl, .inl rfl⟩
  | awaitingServerFirst n =>
    obtain rfl : k = 1 := by simpa [progress, eq_comm] using h
    obtain ⟨hnonces, honce⟩ := Iam.usage_answer resolver n challenge s u
    rw [Iam.run_evaluate_awaiting rfl]
    exact ⟨fun _ => hnonces, fun hk => absurd rfl hk, honce⟩
  | complete =>
    rw [Iam.run_evaluate_complete rfl]
    exact ⟨fun _ => rfl, fun _ => rfl, .inl rfl⟩
  | failed =>
    rw [Iam.run_evaluate_failed rfl]
    exact ⟨fun _ => rfl, fun _ => rfl, .inl rfl⟩

/-- A call counts one message more, or ends the conversation. -/
theorem Advances.next {m : Mechanism} {limit k : Nat} {p p' : Progress}
    {outcome : Except AuthError Bytes} (h : Advances m limit p outcome p')
    (hp : p = .made k ∨ p = .failed) : p' = .made (k + 1) ∨ p' = .failed := by
  cases h with
  | message room =>
    obtain rfl : _ = k := by simpa using hp
    exact .inl rfl
  | failure room => exact .inr rfl
  | tooMany => exact .inr rfl
  | aborted => exact .inr rfl

/-- The calls that follow `k` others are the `k`-th and so on. -/
theorem isFrugal_askAll (s : Surroundings) (challenges : List Bytes) {i : Iam} {k : Nat} (u : Usage)
    (h : (iam i).progress = .made k ∨ (iam i).progress = .failed) {j : Nat} {call : Call}
    (hcall : ((iam i).askAll s challenges u).calls[j]? = some call) : call.IsFrugal (k + j) := by
  induction challenges generalizing i k u j with
  | nil => simp [askAll] at hcall
  | cons challenge challenges ih =>
    cases j with
    | zero =>
      obtain rfl := Option.some.inj hcall
      exact isFrugal_evaluate h challenge s u
    | succ j =>
      have hnext := (advances_iam i challenge s u).next h
      rw [Nat.add_comm j 1, ← Nat.add_assoc]
      exact ih _ hnext hcall

/-- Behind `k` calls, at most one fetch is left, and none from the third call on. -/
theorem fetches_askAll (s : Surroundings) (challenges : List Bytes) {i : Iam} {k : Nat} (u : Usage)
    (h : (iam i).progress = .made k ∨ (iam i).progress = .failed) :
    ((iam i).askAll s challenges u).usage.fetches ≤ u.fetches + min 1 (2 - k) := by
  induction challenges generalizing i k u with
  | nil => exact Nat.le_add_right _ _
  | cons challenge challenges ih =>
    have hrest := ih ((i.evaluate challenge).run s u).2 ((advances_iam i challenge s u).next h)
    have hstep := isFrugal_evaluate h challenge s u
    refine Nat.le_trans hrest ?_
    by_cases hk : k = 1
    · -- the only call that may fetch, and the last one that has an effect
      have honce : ((i.evaluate challenge).run s u).2.fetches = u.fetches ∨
          ((i.evaluate challenge).run s u).2.fetches = u.fetches + 1 := hstep.once
      omega
    · have hsame : ((i.evaluate challenge).run s u).2.fetches = u.fetches := hstep.fetches hk
      omega

/-- Behind the first call no nonce is drawn. -/
theorem nonces_askAll (s : Surroundings) (challenges : List Bytes) {i : Iam} {k : Nat} (u : Usage)
    (h : (iam i).progress = .made (k + 1) ∨ (iam i).progress = .failed) :
    ((iam i).askAll s challenges u).usage.nonces = u.nonces := by
  induction challenges generalizing i k u with
  | nil => rfl
  | cons challenge challenges ih =>
    have hnext := (advances_iam i challenge s u).next h
    have hstep := (isFrugal_evaluate h challenge s u).nonces (Nat.succ_ne_zero k)
    exact (ih ((i.evaluate challenge).run s u).2 hnext).trans hstep

/-- A plain conversation uses nothing. -/
theorem usage_askAll_plain (s : Surroundings) (challenges : List Bytes) (p : Plain) (u : Usage) :
    (∀ call ∈ ((plain p).askAll s challenges u).calls, call.after = call.before) ∧
      ((plain p).askAll s challenges u).usage = u := by
  induction challenges generalizing p with
  | nil => exact ⟨by simp [askAll], rfl⟩
  | cons challenge challenges ih =>
    obtain ⟨hcalls, husage⟩ := ih p.evaluate.2
    refine ⟨?_, husage⟩
    intro call hcall
    rcases List.mem_cons.mp hcall with rfl | hlater
    · rfl
    · exact hcalls call hlater

/-- **The life cycle of conversations.** Whatever challenges a new conversation is asked with, its
messages come first, at most two of a signing and one of a plain conversation, and behind them one
failure that says why and others that say that there was one. The first call of a signing
conversation always makes a message from the only nonce that is drawn. Only its second call fetches,
and at most once. The first call of a plain conversation makes a message exactly if there are a
username and a password, and none of its calls uses anything. -/
theorem life_cycle (c : Credential) (s : Surroundings) (challenges : List Bytes) (u : Usage) :
    let signing := (iam (.start c)).askAll s challenges u
    let plain := (plain (.start c)).askAll s challenges u
    LifeCycle .aws 2 signing.outcomes signing.conversation.isComplete ∧
    LifeCycle .plain 1 plain.outcomes plain.conversation.isComplete ∧
    signing.calls.length = challenges.length ∧
    plain.calls.length = challenges.length ∧
    (∀ call, signing.calls[0]? = some call →
      call.outcome = .ok (Iam.firstDocument (s.nonce u.nonces)).encode ∧
      call.before = u ∧ call.after = { u with nonces := u.nonces + 1 }) ∧
    (∀ (j : Nat) (call : Call), signing.calls[j]? = some call → call.IsFrugal j) ∧
    signing.usage.nonces = u.nonces + min 1 challenges.length ∧
    signing.usage.fetches ≤ u.fetches + 1 ∧
    (∀ call, plain.calls[0]? = some call →
      ((∃ message, call.outcome = .ok message) ↔
        ∃ username password, c.username = some username ∧ c.password = some password)) ∧
    (∀ call ∈ plain.calls, call.after = call.before) ∧
    plain.usage = u := by
  intro signing plain
  have hstart : (iam (.start c)).progress = .made 0 := rfl
  obtain ⟨hunused, husage⟩ := usage_askAll_plain s challenges (.start c) u
  refine ⟨lifeCycle_askAll rfl s challenges u, lifeCycle_askAll rfl s challenges u,
    length_calls s challenges _ u, length_calls s challenges _ u, ?_, ?_, ?_,
    fetches_askAll s challenges u (.inl hstart), ?_, hunused, husage⟩
  · intro call hcall
    cases challenges with
    | nil => cases hcall
    | cons challenge challenges =>
      obtain rfl := Option.some.inj hcall
      exact ⟨rfl, rfl, rfl⟩
  · intro j call hcall
    rw [← Nat.zero_add j]
    exact isFrugal_askAll s challenges u (.inl hstart) hcall
  · cases challenges with
    | nil => rfl
    | cons challenge challenges =>
      have hgreeted : (iam (Iam.greeted c (s.nonce u.nonces))).progress = .made (0 + 1) := rfl
      have hrest := nonces_askAll s challenges { u with nonces := u.nonces + 1 } (.inl hgreeted)
      rw [List.length_cons, Nat.min_eq_left (Nat.le_add_left 1 _)]
      exact hrest
  · intro call hcall
    cases challenges with
    | nil => cases hcall
    | cons challenge challenges =>
      obtain rfl := Option.some.inj hcall
      exact Plain.exists_message_iff c

end SaslClient.Conversation
