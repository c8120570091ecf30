import SaslClient.Proofs.Resolver

/-!
# Resolving again and again

A resolver can be asked for keys any number of times, and the source may answer every fetch
differently. Until a key document was read, every call that needs one fetches; from then on no call
does, and all of them give what the call that read it gave. Within a call there are up to three
look-ups, and only the first of them can fetch (`resolve_eq_resolveOnce`).

The proof follows the resolver: a call meets either the new one, and then no document was read, or
one that holds the document that an earlier call read (`new_or_holding`). A resolver with a document
is settled: its calls use nothing, change nothing and give the same (`calls_of_settled`).

Main results:

* `call_of_settled`, `call_of_new`: the two kinds of calls.
* `new_or_holding`: the resolver that each call of a run meets.
* `memoized`: fetches, outcomes and resolvers over all calls.
-/

namespace SaslClient.Resolver

variable {c : Credential} {s : Surroundings}

/-! ## Calls -/

/-- One call of a resolver: what it gave, and the resolver and what had been used, before it and
after it. -/
structure Call where
  outcome : Except AuthError SigningKeys
  before : Resolver
  after : Resolver
  usedBefore : Usage
  usedAfter : Usage

/-- The next call of a resolver. -/
def call (r : Resolver) (s : Surroundings) (u : Usage) : Call :=
  let step := r.resolve.run s u
  ⟨step.1.1, r, step.1.2, u, step.2⟩

/-- Asks a resolver for keys so many times, whatever came of the earlier calls. -/
def calls (r : Resolver) (s : Surroundings) : (times : Nat) → Usage → List Call
  | 0, _ => []
  | times + 1, u =>
    let first := r.call s u
    first :: first.after.calls s times first.usedAfter

/-- The call fetches once. -/
def Call.Fetches (call : Call) : Prop :=
  call.usedAfter.fetches = call.usedBefore.fetches + 1

/-- The call fetches, and the body that it is given can be read as the key document. -/
def Call.Reads (s : Surroundings) (call : Call) (d : Metadata.KeyDocument) : Prop :=
  call.Fetches ∧ ∃ answer, s.source call.usedBefore.fetches = .ok answer ∧
    Metadata.KeyDocument.parse answer = .ok d

theorem length_calls (s : Surroundings) (times : Nat) (r : Resolver) (u : Usage) :
    (r.calls s times u).length = times := by
  induction times generalizing r u with
  | zero => rfl
  | succ times ih => exact congrArg (· + 1) (ih _ _)

/-- The calls behind one are those of the resolver that it leaves. -/
theorem later_eq_calls {r : Resolver} {times : Nat} {u : Usage} {earlier later : List Call}
    {x : Call} (h : r.calls s times u = earlier ++ x :: later) :
    later = x.after.calls s later.length x.usedAfter := by
  induction earlier generalizing r times u with
  | nil =>
    cases times with
    | zero => cases h
    | succ times =>
      obtain ⟨rfl, rfl⟩ := List.cons.inj h
      rw [length_calls]
  | cons first earlier ih =>
    cases times with
    | zero => cases h
    | succ times => exact ih (List.cons.inj h).2

/-! ## Steps -/

/-- Every call gives this and changes and uses nothing. -/
def Settled (r : Resolver) (outcome : Except AuthError SigningKeys) : Prop :=
  ∀ (s : Surroundings) (u : Usage), r.resolve.run s u = ((outcome, r), u)

/-- Without need of a key document a resolver is settled. -/
theorem settled_of_not_needsDocument {r : Resolver} (h : ¬ NeedsDocument r.credential) :
    ∃ outcome, r.Settled outcome := by
  cases hpair : r.credential.hasPair with
  | true =>
    obtain ⟨username, password, hu, hp⟩ := Credential.hasPair_eq_true_iff.mp hpair
    exact ⟨_, run_resolve_of_pair hu hp⟩
  | false =>
    have htoken : r.credential.sessionToken? ≠ none :=
      fun htoken => h (needsDocument_iff.mpr ⟨hpair, htoken⟩)
    exact ⟨_, run_resolve_of_token hpair htoken⟩

/-- With the key document that it needs a resolver is settled. -/
theorem settled_of_document {r : Resolver} (h : NeedsDocument r.credential)
    {d : Metadata.KeyDocument} (hd : r.document? = some d) :
    r.Settled (SigningKeys.derive r.credential d) := by
  obtain ⟨hpair, htoken⟩ := needsDocument_iff.mp h
  intro s u
  rw [run_resolve_of_document hpair htoken, run_document_of_some hd]
  rfl

section Settled

variable {r : Resolver} {outcome : Except AuthError SigningKeys}

theorem call_of_settled (h : r.Settled outcome) (s : Surroundings) (u : Usage) :
    r.call s u = ⟨outcome, r, r, u, u⟩ := by
  unfold call
  rw [h]

/-- All calls of a settled resolver are the same. -/
theorem calls_of_settled (h : r.Settled outcome) (s : Surroundings) (times : Nat) (u : Usage) :
    r.calls s times u = List.replicate times ⟨outcome, r, r, u, u⟩ := by
  induction times with
  | zero => rfl
  | succ times ih =>
    rw [calls, call_of_settled h, List.replicate_succ]
    exact congrArg _ ih

theorem unchanged_of_settled (h : r.Settled outcome) (s : Surroundings) (times : Nat) (u : Usage) :
    ∀ l ∈ r.calls s times u, l.usedAfter = l.usedBefore ∧ l.outcome = outcome := by
  intro l hl
  rw [calls_of_settled h] at hl
  rw [List.eq_of_mem_replicate hl]
  exact ⟨rfl, rfl⟩

theorem not_fetches_of_settled (h : r.Settled outcome) (s : Surroundings) (u : Usage) :
    ¬ (r.call s u).Fetches := by
  rw [call_of_settled h]
  exact Nat.ne_of_lt (Nat.lt_succ_self _)

end Settled

/-- A call fetches once or not at all, and uses nothing else. -/
theorem usage_call (r : Resolver) (s : Surroundings) (u : Usage) :
    (r.call s u).usedAfter = u ∨ (r.call s u).usedAfter = { u with fetches := u.fetches + 1 } :=
  usage_resolve_or r s u

/-- A new resolver fetches exactly if it needs a key document. -/
theorem fetches_call_of_new {u : Usage} :
    (({ credential := c } : Resolver).call s u).Fetches ↔ NeedsDocument c := by
  show (({ credential := c } : Resolver).resolve.run s u).2.fetches = u.fetches + 1 ↔ _
  rw [usage_resolve]
  split <;> simp [*]

/-- The call of a resolver that needs a key document and has none fetches, and keeps what it can
read. -/
theorem call_of_new (h : NeedsDocument c) (s : Surroundings) (u : Usage) :
    let r : Resolver := { credential := c }
    r.call s u =
      ⟨(served s u).bind (SigningKeys.derive c), r, r.keeping (served s u), u,
        { u with fetches := u.fetches + 1 }⟩ := by
  obtain ⟨hpair, htoken⟩ := needsDocument_iff.mp h
  intro r
  unfold call
  rw [run_resolve_of_fetch hpair htoken rfl]

/-- The call of a new resolver reads what it is served, if it fetches. -/
theorem reads_call_of_new {u : Usage} {d : Metadata.KeyDocument} :
    (({ credential := c } : Resolver).call s u).Reads s d ↔
      NeedsDocument c ∧ served s u = .ok d := by
  rw [Call.Reads, fetches_call_of_new]
  exact and_congr_right fun _ => Except.bind_eq_ok_iff.symm

/-- A new resolver that reads nothing is still new. -/
theorem after_call_of_new {u : Usage}
    (h : ∀ d, ¬ (({ credential := c } : Resolver).call s u).Reads s d) :
    (({ credential := c } : Resolver).call s u).after = { credential := c } := by
  by_cases hneeds : NeedsDocument c
  · cases hserved : served s u with
    | ok d => exact absurd (reads_call_of_new.mpr ⟨hneeds, hserved⟩) (h d)
    | error e =>
      rw [call_of_new hneeds, hserved]
      rfl
  · obtain ⟨outcome, hsettled⟩ := settled_of_not_needsDocument (r := { credential := c }) hneeds
    rw [call_of_settled hsettled]

/-- What a new resolver reads settles it, with what this call gave. -/
theorem settled_of_reads {u : Usage} {d : Metadata.KeyDocument}
    (h : (({ credential := c } : Resolver).call s u).Reads s d) :
    let x := ({ credential := c } : Resolver).call s u
    x.after = { credential := c, document? := some d } ∧ x.after.Settled x.outcome := by
  obtain ⟨hneeds, hserved⟩ := reads_call_of_new.mp h
  rw [call_of_new hneeds, hserved]
  exact ⟨rfl, settled_of_document hneeds rfl⟩

/-- What one call of a new resolver gives when it fetches and reads nothing. -/
theorem outcome_call_of_new {u : Usage}
    (hfetches : (({ credential := c } : Resolver).call s u).Fetches)
    (h : ∀ d, ¬ (({ credential := c } : Resolver).call s u).Reads s d) :
    ∃ e, (({ credential := c } : Resolver).call s u).outcome = .error e ∧
      served s u = .error e := by
  have hneeds := fetches_call_of_new.mp hfetches
  cases hserved : served s u with
  | ok d => exact absurd (reads_call_of_new.mpr ⟨hneeds, hserved⟩) (h d)
  | error e =>
    rw [call_of_new hneeds, hserved]
    exact ⟨e, rfl, rfl⟩

/-! ## Runs -/

/-- Every call of a run is one of the new resolver, if no document was read before it, and otherwise
one of a resolver that holds the document that was. -/
theorem new_or_holding {times : Nat} {u : Usage} {earlier later : List Call} {x : Call}
    (h : ({ credential := c } : Resolver).calls s times u = earlier ++ x :: later) :
    (∃ v, x = ({ credential := c } : Resolver).call s v ∧ ∀ e ∈ earlier, ∀ d, ¬ e.Reads s d) ∨
      ∃ e ∈ earlier, ∃ d v, e.Reads s d ∧ NeedsDocument c ∧
        x = ({ credential := c, document? := some d } : Resolver).call s v := by
  induction earlier generalizing times u with
  | nil =>
    cases times with
    | zero => cases h
    | succ times =>
      obtain ⟨rfl, -⟩ := List.cons.inj h
      exact .inl ⟨u, rfl, by simp⟩
  | cons first earlier ih =>
    cases times with
    | zero => cases h
    | succ times =>
      rw [List.cons_append] at h
      obtain ⟨rfl, hrest⟩ := List.cons.inj h
      by_cases hreads : ∃ d, (({ credential := c } : Resolver).call s u).Reads s d
      · -- the rest of the run is one of a settled resolver
        obtain ⟨d, hreads⟩ := hreads
        obtain ⟨hafter, hsettled⟩ := settled_of_reads hreads
        have hmem : x ∈ earlier ++ x :: later := List.mem_append_right _ List.mem_cons_self
        rw [← hrest, calls_of_settled hsettled] at hmem
        refine .inr ⟨_, List.mem_cons_self, d,
          (({ credential := c } : Resolver).call s u).usedAfter, hreads,
          (reads_call_of_new.mp hreads).1, ?_⟩
        rw [List.eq_of_mem_replicate hmem, ← hafter, call_of_settled hsettled]
      · -- the rest of the run is one of a new resolver
        have hnone := not_exists.mp hreads
        rw [after_call_of_new hnone] at hrest
        rcases ih hrest with ⟨v, hx, hall⟩ | ⟨e, he, hread⟩
        · exact .inl ⟨v, hx, List.forall_mem_cons.mpr ⟨hnone, hall⟩⟩
        · exact .inr ⟨e, List.mem_cons_of_mem _ he, hread⟩

/-- **A key document is read once.** Over any number of calls of a new resolver, whatever the source
answers each time: every call fetches at most once. It fetches exactly if the credential lacks a
username or a password and has no session token, and no earlier fetch gave a body that could be
read. Behind a call that read one, no call fetches, and each gives what that call gave, also in any
other surroundings. A call whose fetch gives no such body fails for it, and leaves the resolver as
it was. -/
theorem memoized (c : Credential) (s : Surroundings) (times : Nat) (u : Usage) :
    let calls := ({ credential := c } : Resolver).calls s times u
    calls.length = times ∧
    ∀ earlier x later, calls = earlier ++ x :: later →
      (x.usedAfter = x.usedBefore ∨
        x.usedAfter = { x.usedBefore with fetches := x.usedBefore.fetches + 1 }) ∧
      (x.Fetches ↔
        ((c.username = none ∨ c.password = none) ∧ c.property? "AWS_SESSION_TOKEN" = none) ∧
          ∀ e ∈ earlier, ∀ d, ¬ e.Reads s d) ∧
      (∀ d, x.Reads s d →
        (∀ l ∈ later, l.usedAfter = l.usedBefore ∧ l.outcome = x.outcome) ∧
        ∀ (s' : Surroundings) (times' : Nat) (u' : Usage), ∀ l ∈ x.after.calls s' times' u',
          l.usedAfter = l.usedBefore ∧ l.outcome = x.outcome) ∧
      (x.Fetches → (∀ d, ¬ x.Reads s d) →
        x.after = x.before ∧ ∃ e, x.outcome = .error e ∧ served s x.usedBefore = .error e) := by
  intro calls
  refine ⟨length_calls s times _ u, ?_⟩
  intro earlier x later hcalls
  have hlater := later_eq_calls hcalls
  rcases new_or_holding hcalls with ⟨v, rfl, hnone⟩ | ⟨e, he, d, v, hread, hneeds, rfl⟩
  · refine ⟨usage_call _ s v, ?_, ?_, ?_⟩
    · rw [fetches_call_of_new]
      exact ⟨fun hneeds => ⟨hneeds, hnone⟩, fun h => h.1⟩
    · intro d hreads
      obtain ⟨-, hsettled⟩ := settled_of_reads hreads
      rw [hlater]
      exact ⟨unchanged_of_settled hsettled s _ _, unchanged_of_settled hsettled⟩
    · intro hfetches hnot
      exact ⟨after_call_of_new hnot, outcome_call_of_new hfetches hnot⟩
  · have hsettled : ({ credential := c, document? := some d } : Resolver).Settled
        (SigningKeys.derive c d) := settled_of_document hneeds rfl
    have hidle := not_fetches_of_settled hsettled s v
    refine ⟨usage_call _ s v, ?_, ?_, ?_⟩
    · exact iff_of_false hidle fun h => h.2 e he d hread
    · exact fun d' hreads => absurd hreads.1 hidle
    · exact fun hfetches => absurd hfetches hidle

/-- The first fetch fails, the second one is served a document without a secret key, and the third
call asks for nothing. -/
example :
    let endpoint := "http://169.254.170.2/keys"
    let s : Surroundings := ⟨fun _ => .counting, fun _ => .ofMilliseconds 0, fun n =>
      if n = 0 then .error (.credentialSource endpoint (.http .unreachable))
      else .ok ⟨endpoint, "[\"AKIDEXAMPLE\",null,\"token\"]"⟩⟩
    (({ credential := { mechanism := .aws } } : Resolver).calls s 3 {}).map
        (fun x => (x.outcome.toOption.isSome, x.after.document?.isSome, x.usedAfter.fetches)) =
      [(false, false, 1), (false, true, 2), (false, true, 2)] := by
  decide +kernel

end SaslClient.Resolver
