import SaslClient.Probe
import SaslClient.Proofs.Conversation.Iam
import SaslClient.Proofs.Conversation.Messages

/-!
# The probe and the conversation

The probe signs what a conversation would sign for a server that echoes the nonce. It checks in
another order: a conversation refuses a host before it looks for keys, the probe signs for it
afterwards. Both come to the same: they succeed exactly if there are keys and a header is signed for
the host with them (`Signs`). Both read the clock once, and a time that no clock can tell stops the
one as the other. The probe moreover wants a log filter that can be used.

Main results:

* `run_eq_ok_iff`: what the probe signs, and when.
* `secondStep_eq_ok_iff`: what the second message of the conversation is, and when there is one.
* `agrees_with_conversation`: the probe and the conversation succeed together, and what is printed
  is what the message says.
* `brokenFilter_stops`: a filter that cannot be used stops the probe, but not the conversation.
-/

namespace SaslClient.Probe

open Conversation

variable {env : Environment} {s : Surroundings} {host : String} {rest : List String}

/-! ## What is signed -/

/-- What is signed for a host with some keys, over the next two nonces and at the next time. -/
def input (s : Surroundings) (u : Usage) (host : String) (keys : SigningKeys) : SigningInput :=
  Iam.signingInput keys ⟨host, (s.nonce u.nonces).bytes ++ (s.nonce (u.nonces + 1)).bytes⟩
    (s.clock u.clockReads).timestamp

/-- There are keys in this environment, and a header signed with them for the host. -/
def Signs (env : Environment) (s : Surroundings) (host : String) (keys : SigningKeys)
    (a : Authorization) : Prop :=
  (({ credential := .ofEnvironment env } : Resolver).resolve.run s {}).1.1 = .ok keys ∧
    Authorization.sign (input s {} host keys) = .ok a

/-- There is one header at most. -/
theorem Signs.unique {keys keys' : SigningKeys} {a a' : Authorization}
    (h : Signs env s host keys a) (h' : Signs env s host keys' a') : keys' = keys ∧ a' = a := by
  obtain rfl := Except.ok.inj (h.1.symm.trans h'.1)
  obtain rfl := Except.ok.inj (h.2.symm.trans h'.2)
  exact ⟨rfl, rfl⟩

/-! ## The probe -/

/-- The log filter of a process can be used: no directive of the one that replaces the level is cut
inside a character, or else the level is valid. -/
def FilterUsable (env : Environment) : Prop :=
  match env.value? "RUST_LOG" with
  | some filter => ∀ directive ∈ LogFilter.directives filter, LogFilter.isBroken directive = false
  | none => LogFilter.check ((env.value? "LOG_LEVEL").getD "info") = .ok ()

theorem checkLenient_eq_ok_iff {filter : String} :
    LogFilter.checkLenient filter = .ok () ↔
      ∀ directive ∈ LogFilter.directives filter, LogFilter.isBroken directive = false := by
  unfold LogFilter.checkLenient
  split
  next hbroken =>
    obtain ⟨directive, hmem, hcut⟩ := List.any_eq_true.mp hbroken
    refine ⟨nofun, fun h => ?_⟩
    rw [h directive hmem] at hcut
    cases hcut
  next hwhole =>
    refine iff_of_true rfl fun directive hmem => ?_
    exact Bool.eq_false_iff.mpr fun hcut => hwhole (List.any_eq_true.mpr ⟨directive, hmem, hcut⟩)

theorem checkLogLevel_eq_ok_iff : checkLogLevel env = .ok () ↔ FilterUsable env := by
  unfold checkLogLevel FilterUsable
  show (match env.value? "RUST_LOG" with | some _ => _ | none => _) = Except.ok () ↔ _
  cases env.value? "RUST_LOG" with
  | some filter => exact Except.mapError_eq_ok_iff.trans checkLenient_eq_ok_iff
  | none => exact Except.mapError_eq_ok_iff

theorem prepare_eq_ok_iff {host' : String} :
    prepare (host :: rest) env = .ok host' ↔
      FilterUsable env ∧ Resolver.check (.ofEnvironment env) = .ok () ∧ host' = host := by
  unfold prepare
  simp only [List.head?_cons, Except.bind_eq_ok_iff, Except.mapError_eq_ok_iff, Except.ok.injEq]
  constructor
  · rintro ⟨_, hfilter, _, hcheck, rfl⟩
    exact ⟨checkLogLevel_eq_ok_iff.mp hfilter, hcheck, rfl⟩
  · rintro ⟨hfilter, hcheck, rfl⟩
    exact ⟨(), checkLogLevel_eq_ok_iff.mpr hfilter, (), hcheck, rfl⟩

/-- Signing draws two nonces, the second for the part of the server, and reads the clock. -/
theorem run_signFor (host : String) (keys : SigningKeys) (s : Surroundings) (u : Usage) :
    (signFor host keys).run s u =
      (((Authorization.sign (input s u host keys)).mapError (.signing host)).map fun a =>
          ⟨a, (s.clock u.clockReads).timestamp, keys⟩,
        { u with nonces := u.nonces + 2, clockReads := u.clockReads + 1 }) := rfl

theorem run_attempt_of_prepared {args : List String} (h : prepare args env = .ok host)
    (s : Surroundings) (u : Usage) :
    (attempt args env).run s u =
      let resolved := ({ credential := .ofEnvironment env } : Resolver).resolve.run s u
      match resolved.1.1 with
      | .error e => (.error (.resolution e), resolved.2)
      | .ok keys => (signFor host keys).run s resolved.2 := by
  unfold attempt
  rw [h]
  simp only [Act.run_bind]
  cases (({ credential := .ofEnvironment env } : Resolver).resolve.run s u).1.1 <;> rfl

/-- Resolving takes nothing of what is signed. -/
theorem input_resolve (c : Credential) (s : Surroundings) (u : Usage) :
    input s (({ credential := c } : Resolver).resolve.run s u).2 = input s u := by
  rw [Resolver.usage_resolve]
  split <;> rfl

/-- With keys and a header signed with them an attempt succeeds, and has read the clock once. -/
theorem run_attempt_of_signs {keys : SigningKeys} {a : Authorization} (hfilter : FilterUsable env)
    (h : Signs env s host keys a) (rest : List String) :
    ∃ u : Usage, u.clockReads = 1 ∧
      (attempt (host :: rest) env).run s {} = (.ok ⟨a, (s.clock 0).timestamp, keys⟩, u) := by
  obtain ⟨hkeys, hsign⟩ := h
  have hprepare : prepare (host :: rest) env = .ok host :=
    prepare_eq_ok_iff.mpr ⟨hfilter, Resolver.check_of_resolve hkeys, rfl⟩
  rw [run_attempt_of_prepared hprepare]
  simp only [hkeys]
  rw [run_signFor, input_resolve, Resolver.clockReads_resolve, hsign]
  exact ⟨_, rfl, rfl⟩

/-- An attempt succeeds only with keys and a header signed with them. -/
theorem signs_of_attempt {signed : Signed}
    (h : ((attempt (host :: rest) env).run s {}).1 = .ok signed) :
    FilterUsable env ∧
      ∃ keys a, Signs env s host keys a ∧ signed = ⟨a, (s.clock 0).timestamp, keys⟩ := by
  cases hprepare : prepare (host :: rest) env with
  | error e =>
    unfold attempt at h
    rw [hprepare] at h
    cases h
  | ok host' =>
    obtain ⟨hfilter, -, rfl⟩ := prepare_eq_ok_iff.mp hprepare
    rw [run_attempt_of_prepared hprepare] at h
    cases hkeys : (({ credential := .ofEnvironment env } : Resolver).resolve.run s {}).1.1 with
    | error e =>
      simp only [hkeys] at h
      cases h
    | ok keys =>
      simp only [hkeys] at h
      rw [run_signFor, input_resolve, Resolver.clockReads_resolve] at h
      obtain ⟨a, hsign, rfl⟩ := Except.map_eq_ok_iff.mp h
      exact ⟨hfilter, keys, a, ⟨hkeys, Except.mapError_eq_ok_iff.mp hsign⟩, rfl⟩

/-- The probe succeeds exactly if its log filter can be used, a clock can tell the time, and there
are keys and a header signed with them. -/
theorem run_eq_ok_iff {signed : Signed} :
    ((run (host :: rest) env).run s {}).1 = .ok signed ↔
      FilterUsable env ∧ (s.clock 0).isTold = true ∧
        ∃ keys a, Signs env s host keys a ∧ signed = ⟨a, (s.clock 0).timestamp, keys⟩ := by
  have hrun : ((run (host :: rest) env).run s {}).1 = .ok signed ↔
      ((attempt (host :: rest) env).unlessStopped.run s {}).1 = some (.ok signed) := by
    show Option.getD _ _ = _ ↔ _
    rw [Option.getD_eq_iff]
    simp
  rw [hrun, Act.unlessStopped_eq_some_iff]
  constructor
  · rintro ⟨htold, h⟩
    obtain ⟨hfilter, keys, a, hsigns, rfl⟩ := signs_of_attempt h
    obtain ⟨u, hu, hattempt⟩ := run_attempt_of_signs hfilter hsigns rest
    rw [hattempt, Surroundings.tells_of_read hu] at htold
    exact ⟨hfilter, htold, keys, a, hsigns, rfl⟩
  · rintro ⟨hfilter, htold, keys, a, hsigns, rfl⟩
    obtain ⟨u, hu, hattempt⟩ := run_attempt_of_signs hfilter hsigns rest
    rw [hattempt, Surroundings.tells_of_read hu]
    exact ⟨htold, rfl⟩

/-! ## The conversation -/

/-- The answer to a greeting that echoes the nonce, with a second half of any kind. -/
theorem answer_greeting_eq_ok_iff {c : Credential} {n n' : Nonce} {u : Usage} {message : Bytes} :
    ((Iam.answer { credential := c } n (greeting host (n.bytes ++ n'.bytes)).encode).run s u).1.1 =
        .ok message ↔
      ∃ (keys : SigningKeys) (a : Authorization) (d : Document),
        (({ credential := c } : Resolver).resolve.run s u).1.1 = .ok keys ∧
        Authorization.sign (Iam.signingInput keys ⟨host, n.bytes ++ n'.bytes⟩
          (s.clock u.clockReads).timestamp) = .ok a ∧
        d.entries = Iam.finalFields a.header (s.clock u.clockReads).timestamp keys.sessionToken ∧
        message = d.encode := by
  have hlength : (n.bytes ++ n'.bytes).length = 64 := by
    rw [List.length_append, n.length_eq, n'.length_eq]
    rfl
  have hechoes : n.bytes <+: n.bytes ++ n'.bytes := List.prefix_append _ _
  constructor
  · intro h
    obtain ⟨first, keys, a, d, haccepted, hkeys, hsign, hentries, hmessage⟩ := Iam.answer_eq_ok h
    obtain ⟨rfl, -⟩ := (accepted_greeting_iff hlength hechoes).mp haccepted
    exact ⟨keys, a, d, hkeys, hsign, hentries, hmessage⟩
  · rintro ⟨keys, a, d, hkeys, hsign, hentries, rfl⟩
    -- a header is signed for hosts with a region only, and those are accepted
    obtain ⟨-, -, region, -, hregion, -⟩ := Authorization.sign_eq_ok_iff.mp hsign
    have haccepted : ServerFirst.Accepted n (greeting host (n.bytes ++ n'.bytes)).encode
        ⟨host, n.bytes ++ n'.bytes⟩ :=
      (accepted_greeting_iff hlength hechoes).mpr ⟨rfl, region, hregion⟩
    rw [Iam.run_answer_of_resolved haccepted hkeys]
    simp only [Resolver.clockReads_resolve]
    rw [Except.map_eq_ok_iff]
    exact ⟨d, Iam.finalDocument_eq_ok_iff.mpr ⟨a, hsign, hentries⟩, rfl⟩

/-- The answer of a new conversation to a challenge, behind its first message. -/
def secondMessage (c : Credential) (challenge : Bytes) : Act (Except AuthError Bytes) := do
  let (_, begun) ← (Iam.start c).evaluate []
  let (message, _) ← begun.evaluate challenge
  return message

/-- What comes of the second step of a new conversation, unless a time stops it. -/
def secondStep (c : Credential) (s : Surroundings) (challenge : Bytes) :
    Option (Except AuthError Bytes) :=
  ((secondMessage c challenge).unlessStopped.run s {}).1

theorem run_secondMessage (c : Credential) (challenge : Bytes) (s : Surroundings) :
    (secondMessage c challenge).run s {} =
      let answered := (Iam.answer { credential := c } (s.nonce 0) challenge).run s { nonces := 1 }
      (answered.1.1, answered.2) := by
  unfold secondMessage
  simp only [Act.run_bind, Iam.run_evaluate_start, Iam.run_evaluate_greeted]
  rfl

/-- The second message is the answer to the challenge, if a clock can tell the time. -/
theorem secondStep_eq_answer_iff {c : Credential} {challenge message : Bytes} :
    secondStep c s challenge = some (.ok message) ↔
      (s.clock 0).isTold = true ∧
        ((Iam.answer { credential := c } (s.nonce 0) challenge).run s { nonces := 1 }).1.1 =
          .ok message := by
  rw [secondStep, Act.unlessStopped_eq_some_iff, run_secondMessage]
  refine and_congr_left fun h => ?_
  have hread := Iam.clockReads_answer h
  rw [Surroundings.tells_of_read (u := {}) hread]

/-- With a server that echoes the nonce, the conversation makes its second message exactly if a
clock can tell the time and there are keys and a header signed with them, and the message carries
them. -/
theorem secondStep_eq_ok_iff {message : Bytes} :
    secondStep (.ofEnvironment env) s
        (greeting host ((s.nonce 0).bytes ++ (s.nonce 1).bytes)).encode = some (.ok message) ↔
      (s.clock 0).isTold = true ∧
        ∃ (keys : SigningKeys) (a : Authorization) (d : Document), Signs env s host keys a ∧
          d.entries = Iam.finalFields a.header (s.clock 0).timestamp keys.sessionToken ∧
          message = d.encode := by
  have hresolve : (({ credential := .ofEnvironment env } : Resolver).resolve.run s
      { nonces := 1 }).1 = (({ credential := .ofEnvironment env } : Resolver).resolve.run s {}).1 :=
    Resolver.outcome_resolve_of_fetches _ s rfl
  rw [secondStep_eq_answer_iff, answer_greeting_eq_ok_iff, hresolve]
  refine and_congr_right fun _ => ?_
  constructor
  · rintro ⟨keys, a, d, hkeys, hsign, hentries, hmessage⟩
    exact ⟨keys, a, d, ⟨hkeys, hsign⟩, hentries, hmessage⟩
  · rintro ⟨keys, a, d, ⟨hkeys, hsign⟩, hentries, hmessage⟩
    exact ⟨keys, a, d, hkeys, hsign, hentries, hmessage⟩

/-! ## The probe and the conversation -/

/-- What is printed about a signed request are the fields of the message that carries it. -/
theorem text_of_entries {keys : SigningKeys} {a : Authorization} {time : String} {d : Document}
    (h : d.entries = Iam.finalFields a.header time keys.sessionToken) :
    d.getText "a" = .ok a.header ∧ d.getText "d" = .ok time ∧
      (Signed.mk a time keys).text =
        "authorization: " ++ a.header ++ "\n" ++
          "timestamp:     " ++ time ++ "\n" ++
          "origin:        " ++ keys.origin.name ++ "\n" ++
          "session token: " ++ (if "t" ∈ d.keys then "attached" else "none") ++ "\n" := by
  refine ⟨?_, ?_, ?_⟩
  · rw [Document.getText_eq_ok_iff, Document.get?_eq_lookup, h]
    rfl
  · rw [Document.getText_eq_ok_iff, Document.get?_eq_lookup, h]
    rfl
  · have htoken : (if "t" ∈ d.keys then "attached" else "none") =
        if keys.sessionToken.isSome = true then "attached" else "none" :=
      if_congr (Iam.mem_keys_token h) rfl rfl
    rw [htoken]
    unfold Signed.text
    dsimp only

/-- **The probe agrees with the conversation.** For every environment, behaviour of the network,
host, nonces and clock: the probe succeeds if and only if its log filter can be used and a
conversation for the same keys makes its second message, when it sent the first nonce and the server
answers with the host and both nonces. A time that no clock can tell stops the one as the other.
What the probe prints are the authorization and the timestamp of this message, and a session token
is reported exactly if the message carries one. -/
theorem agrees_with_conversation (env : Environment) (network : Http.Network) (host : String)
    (rest : List String) (nonce : Nat → Nonce) (clock : Nat → Instant) :
    let s : Surroundings := ⟨nonce, clock, (client env).source network⟩
    let probe := ((run (host :: rest) env).run s {}).1
    let second := secondStep (.ofEnvironment env) s
      (greeting host ((nonce 0).bytes ++ (nonce 1).bytes)).encode
    ((∃ signed, probe = .ok signed) ↔
      FilterUsable env ∧ ∃ message, second = some (.ok message)) ∧
    ∀ signed message, probe = .ok signed → second = some (.ok message) →
      ∃ (d : Document) (a time : String), message = d.encode ∧
        d.getText "a" = .ok a ∧ d.getText "d" = .ok time ∧
        signed.text =
          "authorization: " ++ a ++ "\n" ++
            "timestamp:     " ++ time ++ "\n" ++
            "origin:        " ++ signed.keys.origin.name ++ "\n" ++
            "session token: " ++ (if "t" ∈ d.keys then "attached" else "none") ++ "\n" := by
  intro s probe second
  constructor
  · constructor
    · rintro ⟨signed, hprobe⟩
      obtain ⟨hfilter, htold, keys, a, hsigns, -⟩ := run_eq_ok_iff.mp hprobe
      have hentries := Document.entries_ofEntries
        (Iam.finalFields a.header (clock 0).timestamp keys.sessionToken)
      have hsecond := secondStep_eq_ok_iff.mpr ⟨htold, keys, a, _, hsigns, hentries, rfl⟩
      exact ⟨hfilter, _, hsecond⟩
    · rintro ⟨hfilter, message, hsecond⟩
      obtain ⟨htold, keys, a, -, hsigns, -⟩ := secondStep_eq_ok_iff.mp hsecond
      exact ⟨_, run_eq_ok_iff.mpr ⟨hfilter, htold, keys, a, hsigns, rfl⟩⟩
  · intro signed message hprobe hsecond
    obtain ⟨-, -, keys, a, hsigns, rfl⟩ := run_eq_ok_iff.mp hprobe
    obtain ⟨-, keys', a', d, hsigns', hentries, hmessage⟩ := secondStep_eq_ok_iff.mp hsecond
    obtain ⟨rfl, rfl⟩ := hsigns.unique hsigns'
    obtain ⟨ha, hd, htext⟩ := text_of_entries hentries
    exact ⟨d, _, _, hmessage, ha, hd, htext⟩

/-- Keys of the environment and a host with a region are enough. -/
example :
    let env : Environment := .ofList
      [("AWS_ACCESS_KEY_ID", "AKID"), ("AWS_SECRET_ACCESS_KEY", "SECRET"), ("LOG_LEVEL", "debug")]
    let s : Surroundings := ⟨fun _ => .counting, fun _ => .ofMilliseconds 1704110400000,
      (client env).source fun _ => .unreachable⟩
    ((run ["h.r.c"] env).run s {}).1.toOption.isSome = true := by
  decide +kernel

/-- A filter with a directive that is cut inside a character stops the probe, although it replaces
the log level and a conversation makes its second message. -/
theorem brokenFilter_stops :
    let env : Environment := .ofList
      [("AWS_ACCESS_KEY_ID", "AKID"), ("AWS_SECRET_ACCESS_KEY", "SECRET"),
        ("RUST_LOG", "\u3000a=info")]
    let s : Surroundings := ⟨fun _ => .counting, fun _ => .ofMilliseconds 1704110400000,
      (client env).source fun _ => .unreachable⟩
    env.value? "RUST_LOG" ≠ none ∧
      ¬ ((∃ signed, ((run ["h.r.c"] env).run s {}).1 = .ok signed) ↔
        ∃ message, secondStep (.ofEnvironment env) s
          (greeting "h.r.c" (Nonce.counting.bytes ++ Nonce.counting.bytes)).encode =
            some (.ok message)) := by
  intro env s
  have hbroken : (checkLogLevel env).toOption = none := by decide +kernel
  have hsecond : ((secondStep (.ofEnvironment env) s
      (greeting "h.r.c" (Nonce.counting.bytes ++ Nonce.counting.bytes)).encode).bind
        Except.toOption).isSome = true := by
    decide +kernel
  obtain ⟨message, hmessage⟩ := Option.isSome_iff_exists.mp hsecond
  obtain ⟨outcome, houtcome, hmade⟩ := Option.bind_eq_some_iff.mp hmessage
  obtain rfl := Except.toOption_eq_some_iff.mp hmade
  refine ⟨by decide, fun hagree => ?_⟩
  obtain ⟨signed, hprobe⟩ := hagree.mpr ⟨message, houtcome⟩
  obtain ⟨hfilter, -⟩ := run_eq_ok_iff.mp hprobe
  rw [Except.toOption_eq_some_iff.mpr (checkLogLevel_eq_ok_iff.mpr hfilter)] at hbroken
  cases hbroken

end SaslClient.Probe
