import SaslClient.Proofs.Conversation.Credential

/-!
# Conversations with explicit keys

With a username and a password in the credential there is nothing to look up. No call of such a
conversation uses the source of key documents, so its runs are the same whatever the source would
answer.

Main results:

* `IgnoresSource.bind`: activities that make no use of the source compose.
* `ignoresSource_evaluate`: a call of a conversation with explicit keys makes none.
* `askAll_ignores_source`: neither does any run of it.
-/

namespace SaslClient

/-! ## Activities without a source -/

namespace Act

variable {α β : Type}

/-- The activity makes no use of the source of key documents: it fetches nothing, and it goes the
same way in surroundings with any other source. -/
def IgnoresSource (act : Act α) : Prop :=
  ∀ (s : Surroundings) (source : Nat → Except AuthError Metadata.Answer) (u : Usage),
    act.run { s with source := source } u = act.run s u ∧ (act.run s u).2.fetches = u.fetches

theorem ignoresSource_pure (a : α) : (pure a : Act α).IgnoresSource :=
  fun _ _ _ => ⟨rfl, rfl⟩

theorem ignoresSource_drawNonce : drawNonce.IgnoresSource :=
  fun _ _ _ => ⟨rfl, rfl⟩

theorem ignoresSource_readClock : readClock.IgnoresSource :=
  fun _ _ _ => ⟨rfl, rfl⟩

/-- What follows need not ignore the source for every result, only for those that come about. -/
theorem IgnoresSource.bind {act : Act α} {next : α → Act β} (h : act.IgnoresSource)
    (hnext : ∀ s u, (next (act.run s u).1).IgnoresSource) : (act >>= next).IgnoresSource := by
  intro s source u
  obtain ⟨hrun, hfetches⟩ := h s source u
  obtain ⟨hrun', hfetches'⟩ := hnext s u s source (act.run s u).2
  rw [run_bind, run_bind, hrun]
  exact ⟨hrun', hfetches'.trans hfetches⟩

end Act

namespace Conversation

/-! ## Calls -/

theorem ignoresSource_resolve {r : Resolver} (h : r.credential.hasPair = true) :
    r.resolve.IgnoresSource := by
  obtain ⟨username, password, hu, hp⟩ := Credential.hasPair_eq_true_iff.mp h
  intro s source u
  rw [Resolver.run_resolve_of_pair hu hp, Resolver.run_resolve_of_pair hu hp]
  exact ⟨rfl, rfl⟩

theorem Iam.ignoresSource_answer {r : Resolver} (h : r.credential.hasPair = true) (n : Nonce)
    (challenge : Bytes) : (answer r n challenge).IgnoresSource := by
  unfold answer
  split
  · exact Act.ignoresSource_pure _
  · refine (ignoresSource_resolve h).bind fun s u => ?_
    dsimp only
    split
    · exact Act.ignoresSource_pure _
    · exact Act.ignoresSource_readClock.bind fun s u => Act.ignoresSource_pure _

theorem Iam.ignoresSource_evaluate {i : Iam} (h : i.resolver.credential.hasPair = true)
    (challenge : Bytes) : (i.evaluate challenge).IgnoresSource := by
  unfold evaluate
  split
  · exact Act.ignoresSource_drawNonce.bind fun s u => Act.ignoresSource_pure _
  · refine (Iam.ignoresSource_answer h _ challenge).bind fun s u => ?_
    dsimp only
    split <;> exact Act.ignoresSource_pure _
  · exact Act.ignoresSource_pure _
  · exact Act.ignoresSource_pure _

/-- A call of a conversation with explicit keys makes no use of the source. -/
theorem ignoresSource_evaluate {c : Conversation} (h : c.credential.hasPair = true)
    (challenge : Bytes) : (c.evaluate challenge).IgnoresSource := by
  cases c with
  | iam i => exact (Iam.ignoresSource_evaluate h challenge).bind fun s u => Act.ignoresSource_pure _
  | plain p => exact Act.ignoresSource_pure _

/-! ## Runs -/

/-- The runs of a conversation with explicit keys make no use of the source: the outcomes of their
calls, what the calls use, and the conversation that is left are the same with any other. -/
theorem askAll_ignores_source {c : Conversation} (h : c.credential.hasPair = true)
    (s : Surroundings) (source : Nat → Except AuthError Metadata.Answer) (challenges : List Bytes)
    (u : Usage) :
    c.askAll { s with source := source } challenges u = c.askAll s challenges u ∧
      (c.askAll s challenges u).usage.fetches = u.fetches := by
  induction challenges generalizing c u with
  | nil => exact ⟨rfl, rfl⟩
  | cons challenge challenges ih =>
    obtain ⟨hcall, hfetches⟩ := ignoresSource_evaluate h challenge s source u
    -- the next call is one of a conversation for the same credential
    have hnext : ((c.evaluate challenge).run s u).1.2.credential.hasPair = true := by
      rw [credential_evaluate]
      exact h
    obtain ⟨hrest, hfetches'⟩ := ih hnext ((c.evaluate challenge).run s u).2
    refine ⟨?_, hfetches'.trans hfetches⟩
    unfold askAll
    simp only [hcall, hrest]

end Conversation

end SaslClient
