import SaslClient.Proofs.Conversation.LifeCycle

/-!
# The credential of a conversation

A conversation keeps the credential that it was started with, so what its configuration promises at
the start is still true at every later call.

Main results:

* `credential_evaluate`: a call leaves the credential as it is.
* `forall_calls`: what each call of a conversation with a property does, if it leaves the property
  true, every call of a run does.
-/

namespace SaslClient.Conversation

/-- The credential that a conversation is for. -/
def credential : Conversation → Credential
  | .iam c => c.resolver.credential
  | .plain c => c.credential

theorem Iam.credential_answer (r : Resolver) (n : Nonce) (challenge : Bytes) (s : Surroundings)
    (u : Usage) : ((answer r n challenge).run s u).1.2.credential = r.credential := by
  rcases ServerFirst.accepted_or_refused n challenge with ⟨first, haccepted⟩ | ⟨e, hrefused⟩
  · rw [← Resolver.credential_resolve r s u]
    cases hkeys : (r.resolve.run s u).1.1 with
    | error e => rw [run_answer_of_unresolved haccepted hkeys]
    | ok keys => rw [run_answer_of_resolved haccepted hkeys]
  · rw [run_answer_of_refused hrefused]

theorem Iam.credential_evaluate (i : Iam) (challenge : Bytes) (s : Surroundings) (u : Usage) :
    ((i.evaluate challenge).run s u).1.2.resolver.credential = i.resolver.credential := by
  cases hphase : i.phase with
  | notStarted =>
    unfold evaluate
    rw [hphase]
    rfl
  | awaitingServerFirst n =>
    rw [run_evaluate_awaiting hphase]
    exact credential_answer i.resolver n challenge s u
  | complete => rw [run_evaluate_complete hphase]
  | failed => rw [run_evaluate_failed hphase]

theorem Plain.credential_evaluate (p : Plain) : p.evaluate.2.credential = p.credential := by
  unfold evaluate
  split
  · split <;> rfl
  · rfl
  · rfl

/-- A call leaves the credential as it is. -/
theorem credential_evaluate (c : Conversation) (challenge : Bytes) (s : Surroundings) (u : Usage) :
    ((c.evaluate challenge).run s u).1.2.credential = c.credential := by
  cases c with
  | iam i => exact Iam.credential_evaluate i challenge s u
  | plain p => exact Plain.credential_evaluate p

/-- What each call of a conversation with a property does, if it leaves the property true, every
call of a run does. -/
theorem forall_calls {P : Conversation → Prop} {Q : Call → Prop} {s : Surroundings}
    (hcall : ∀ c challenge u, P c →
      Q ⟨((c.evaluate challenge).run s u).1.1, u, ((c.evaluate challenge).run s u).2⟩ ∧
        P ((c.evaluate challenge).run s u).1.2)
    (challenges : List Bytes) {c : Conversation} (hc : P c) (u : Usage) :
    ∀ call ∈ (c.askAll s challenges u).calls, Q call := by
  induction challenges generalizing c u with
  | nil => simp [askAll]
  | cons challenge challenges ih =>
    obtain ⟨hfirst, hnext⟩ := hcall c challenge u hc
    intro call hmem
    rcases List.mem_cons.mp hmem with rfl | hlater
    · exact hfirst
    · exact ih hnext _ call hlater

end SaslClient.Conversation
