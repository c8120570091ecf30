import Mathlib.Data.List.Forall2
import Mathlib.Data.List.Sort
import SaslClient.Proofs.Attempt
import SaslClient.Proofs.Signing.Delimiters

/-!
# What the secrets of a credential have a part in

The password and the values of the properties are secret. Two attempts with credentials for signing
that differ in nothing else are compared, over a connection that answers by a fixed script. They
part only in the final message, and there only in the digits of the signature and in the session
token. So nobody who sees the rest of the commands, or how the attempt ends, learns anything of the
secrets but whether a token is in use.

Each stage relates its two results: two sets of keys (`SigningKeys.AgreeButSecrets`), two answers to
a challenge (`AnswersAlike`), two attempts (`Attempt.Alike`).

Main results:

* `Authorization.sign_of_agree`: whether a request can be signed, and all of its header but the
  signature, is the same.
* `alike_answer`, `alike_lastMessage`: keys that agree give alike answers, alike answers alike
  attempts.
* `secrets_in_final_message_only`: the two attempts, and the credentials for display.
-/

namespace SaslClient

/-! ## Names of properties -/

namespace Properties

theorem isSome_lookup_iff {p : Properties} {name : String} :
    (p.lookup name).isSome = true ↔ name ∈ p.names := by
  simp only [lookup, names, List.lookup_isSome_iff, beq_iff_eq, List.mem_map]
  exact exists_congr fun entry => and_congr_right fun _ => eq_comm

/-- Properties that have the same names have them in the same order. -/
theorem names_eq {p p' : Properties}
    (h : ∀ name, (p'.lookup name).isSome = (p.lookup name).isSome) : p'.names = p.names := by
  refine List.Pairwise.eq_of_mem_iff (r := (· < ·)) p'.ordered p.ordered fun name => ?_
  show name ∈ p'.names ↔ name ∈ p.names
  rw [← isSome_lookup_iff, ← isSome_lookup_iff, h]

end Properties

/-! ## Credentials and keys -/

/-- Two credentials with explicit keys for signing that agree on all that is not secret: everything
but the password and the values of the properties. Of the session tokens, if there are any, both are
empty or none is. -/
structure Credential.AgreeButSecrets (c c' : Credential) : Prop where
  mechanism : c.mechanism = .aws ∧ c'.mechanism = .aws
  username : c.username ≠ none ∧ c'.username = c.username
  password : c.password ≠ none ∧ c'.password ≠ none
  source : c'.source = c.source
  names : ∀ name, (c'.property? name).isSome = (c.property? name).isSome
  tokens : ∀ token token', c.property? "AWS_SESSION_TOKEN" = some token →
    c'.property? "AWS_SESSION_TOKEN" = some token' → (token = "" ↔ token' = "")

/-- Two sets of keys for one access key, both with a session token or both without. -/
structure SigningKeys.AgreeButSecrets (keys keys' : SigningKeys) : Prop where
  accessKeyId : keys'.accessKeyId = keys.accessKeyId
  token : keys'.sessionToken.isSome = keys.sessionToken.isSome

namespace Credential.AgreeButSecrets

variable {c c' : Credential}

theorem isSome_usableToken (h : c.AgreeButSecrets c') :
    (SigningKeys.usableToken c'.sessionToken?).isSome =
      (SigningKeys.usableToken c.sessionToken?).isSome := by
  have hisSome : c'.sessionToken?.isSome = c.sessionToken?.isSome := h.names _
  have htokens : ∀ token token', c.sessionToken? = some token → c'.sessionToken? = some token' →
    (token = "" ↔ token' = "") := h.tokens
  unfold SigningKeys.usableToken
  cases htoken : c.sessionToken? <;> cases htoken' : c'.sessionToken?
  case none.none => rfl
  case none.some => simp [htoken, htoken'] at hisSome
  case some.none => simp [htoken, htoken'] at hisSome
  case some.some token token' =>
    have hempty : token'.isEmpty = token.isEmpty := by
      rw [Bool.eq_iff_iff, String.isEmpty_iff, String.isEmpty_iff]
      exact (htokens token token' htoken htoken').symm
    cases hcase : token.isEmpty <;> simp [Option.filter, hempty, hcase]

theorem hasPair (h : c.AgreeButSecrets c') : c.hasPair = true ∧ c'.hasPair = true := by
  have husername := Option.isSome_iff_ne_none.mpr h.username.1
  have hpassword := Option.isSome_iff_ne_none.mpr h.password.1
  have hpassword' := Option.isSome_iff_ne_none.mpr h.password.2
  unfold Credential.hasPair
  rw [h.username.2, husername, hpassword, hpassword']
  exact ⟨rfl, rfl⟩

theorem ofCredential (h : c.AgreeButSecrets c') :
    Conversation.ofCredential c = .ok (.iam (.start c)) ∧
      Conversation.ofCredential c' = .ok (.iam (.start c')) := by
  have hcheck : Resolver.check c = .ok () := Resolver.check_eq_ok_iff.mpr (.inr h.hasPair.1)
  have hcheck' : Resolver.check c' = .ok () := Resolver.check_eq_ok_iff.mpr (.inr h.hasPair.2)
  exact ⟨Conversation.ofCredential_eq_ok_iff.mpr (.inl ⟨h.mechanism.1, hcheck, rfl⟩),
    Conversation.ofCredential_eq_ok_iff.mpr (.inl ⟨h.mechanism.2, hcheck', rfl⟩)⟩

/-- Resolving uses nothing of the surroundings, and gives keys that agree. -/
theorem run_resolve (h : c.AgreeButSecrets c') (s s' : Surroundings) (u : Usage) :
    let r : Resolver := { credential := c }
    let r' : Resolver := { credential := c' }
    ∃ keys keys' : SigningKeys, keys.AgreeButSecrets keys' ∧
      r.resolve.run s u = ((.ok keys, r), u) ∧ r'.resolve.run s' u = ((.ok keys', r'), u) := by
  obtain ⟨username, password, hu, hp⟩ := Credential.hasPair_eq_true_iff.mp h.hasPair.1
  obtain ⟨username', password', hu', hp'⟩ := Credential.hasPair_eq_true_iff.mp h.hasPair.2
  have husername : username' = username :=
    Option.some.inj ((hu'.symm.trans h.username.2).trans hu)
  exact ⟨_, _, ⟨husername, h.isSome_usableToken⟩,
    Resolver.run_resolve_of_pair (r := { credential := c }) hu hp s u,
    Resolver.run_resolve_of_pair (r := { credential := c' }) hu' hp' s' u⟩

/-- The credentials are the same for display. -/
theorem describe_eq (h : c.AgreeButSecrets c') : c'.describe = c.describe := by
  have hpassword : c'.password.map (fun _ => "[REDACTED]") =
      c.password.map fun _ => "[REDACTED]" := by
    obtain ⟨password, hp⟩ := Option.ne_none_iff_exists'.mp h.password.1
    obtain ⟨password', hp'⟩ := Option.ne_none_iff_exists'.mp h.password.2
    rw [hp, hp']
    rfl
  unfold describe
  rw [h.mechanism.1, h.mechanism.2, h.username.2, hpassword, h.source,
    Properties.names_eq h.names]

end Credential.AgreeButSecrets

/-! ## Signing -/

namespace Authorization

/-- The text of a header up to its signature. -/
def front (a : Authorization) : String :=
  a.credentialPart ++ ", SignedHeaders=" ++ a.signedHeaders ++ ", Signature="

theorem header_eq (a : Authorization) : a.header = a.front ++ a.signature := by
  simp [header, front, credentialPart, String.append_assoc]

open Conversation.Iam (signingInput)

variable {keys keys' : SigningKeys}

theorem front_compute_of_agree (h : keys.AgreeButSecrets keys') (first : Conversation.ServerFirst)
    (timestamp date region : String) :
    (compute (signingInput keys' first timestamp) date region).front =
      (compute (signingInput keys first timestamp) date region).front := by
  have hsigned : (signingInput keys' first timestamp).signed =
      (signingInput keys first timestamp).signed := by
    rw [SigningInput.signed_eq, SigningInput.signed_eq]
    show _ ++ (if keys'.sessionToken.isSome then _ else _) ++ _ = _
    rw [h.token]
    rfl
  have hid : (signingInput keys' first timestamp).accessKeyId =
      (signingInput keys first timestamp).accessKeyId := h.accessKeyId
  unfold front credentialPart compute
  simp only [hsigned, hid]

/-- With keys that agree, a request is refused with the same error, or signed with headers that
differ in the signature only. -/
theorem sign_of_agree (h : keys.AgreeButSecrets keys') (first : Conversation.ServerFirst)
    (timestamp : String) :
    (∃ e, sign (signingInput keys first timestamp) = .error e ∧
      sign (signingInput keys' first timestamp) = .error e) ∨
    ∃ date region,
      sign (signingInput keys first timestamp) =
        .ok (compute (signingInput keys first timestamp) date region) ∧
      sign (signingInput keys' first timestamp) =
        .ok (compute (signingInput keys' first timestamp) date region) := by
  have hid : (signingInput keys' first timestamp).accessKeyId =
      (signingInput keys first timestamp).accessKeyId := h.accessKeyId
  cases hsign : sign (signingInput keys first timestamp) with
  | error e =>
    refine .inl ⟨e, rfl, ?_⟩
    rw [sign_eq_error_iff, hid]
    exact sign_eq_error_iff.mp hsign
  | ok a =>
    obtain ⟨hid', date, region, hdate, hregion, rfl⟩ := sign_eq_ok_iff.mp hsign
    refine .inr ⟨date, region, rfl, ?_⟩
    exact sign_eq_ok_iff.mpr ⟨hid ▸ hid', date, region, hdate, hregion, rfl⟩

end Authorization

/-! ## Answers -/

namespace Conversation

open Iam (finalFields finalDocument)

/-- The message is a document with a header, which ends with the 64 digits of a signature, a
timestamp, and perhaps a session token. -/
def IsFinal (front digits timestamp : String) (token : Option String) (message : Bytes) : Prop :=
  (digits.toList.length = 64 ∧ ∀ d ∈ digits.toList, Hex.isDigit d = true) ∧
    ∃ d : Document, d.entries = finalFields (front ++ digits) timestamp token ∧ message = d.encode

/-- Two final messages that differ in the digits of the signature and in the session token only. -/
def FinalAlike (message message' : Bytes) : Prop :=
  ∃ front digits digits' timestamp token token', token'.isSome = token.isSome ∧
    IsFinal front digits timestamp token message ∧ IsFinal front digits' timestamp token' message'

/-- Two calls that fail with the same error, or make final messages that are alike. -/
inductive AnswersAlike : Except AuthError Bytes → Except AuthError Bytes → Prop
  | error (e : AuthError) : AnswersAlike (.error e) (.error e)
  | message {message message' : Bytes} (alike : FinalAlike message message') :
    AnswersAlike (.ok message) (.ok message')

/-- What is made of a signed header is a final message. -/
theorem isFinal_of_sign {keys : SigningKeys} {first : ServerFirst} {timestamp date region : String}
    {a : Authorization} (ha : a = .compute (Iam.signingInput keys first timestamp) date region)
    (hsign : Authorization.sign (Iam.signingInput keys first timestamp) = .ok a) :
    ∃ d, finalDocument keys first timestamp = .ok d ∧
      IsFinal a.front a.signature timestamp keys.sessionToken d.encode := by
  have hentries := Document.entries_ofEntries (finalFields a.header timestamp keys.sessionToken)
  refine ⟨_, Iam.finalDocument_eq_ok_iff.mpr ⟨a, hsign, hentries⟩, ?_, _, ?_, rfl⟩
  · rw [ha]
    exact ⟨Authorization.length_signature _ date region,
      Authorization.isDigit_of_mem_signature _ date region⟩
  · rw [← Authorization.header_eq]
    exact hentries

/-- Keys that agree make alike final messages, or none of them can be signed for. -/
theorem alike_finalDocument {keys keys' : SigningKeys} (h : keys.AgreeButSecrets keys')
    (first : ServerFirst) (timestamp : String) :
    AnswersAlike ((finalDocument keys first timestamp).map Document.encode)
      ((finalDocument keys' first timestamp).map Document.encode) := by
  rcases Authorization.sign_of_agree h first timestamp with
    ⟨e, hsign, hsign'⟩ | ⟨date, region, hsign, hsign'⟩
  · rw [Iam.finalDocument_eq, Iam.finalDocument_eq, hsign, hsign']
    exact .error (.signing e)
  · obtain ⟨d, hd, hfinal⟩ := isFinal_of_sign rfl hsign
    obtain ⟨d', hd', hfinal'⟩ := isFinal_of_sign rfl hsign'
    rw [Authorization.front_compute_of_agree h] at hfinal'
    rw [hd, hd']
    exact .message ⟨_, _, _, _, _, _, h.token, hfinal, hfinal'⟩

/-- The answers to a challenge are alike, and use the same of the surroundings. -/
theorem alike_answer {c c' : Credential} (h : c.AgreeButSecrets c') (n : Nonce)
    (challenge : Bytes) (nonce : Nat → Nonce) (clock : Nat → Instant)
    (source source' : Nat → Except AuthError Metadata.Answer) (u : Usage) :
    let step := ((Iam.greeted c n).evaluate challenge).run ⟨nonce, clock, source⟩ u
    let step' := ((Iam.greeted c' n).evaluate challenge).run ⟨nonce, clock, source'⟩ u
    AnswersAlike step.1.1 step'.1.1 ∧ step'.2 = step.2 := by
  simp only [Iam.run_evaluate_greeted]
  rcases ServerFirst.accepted_or_refused n challenge with ⟨first, haccepted⟩ | ⟨e, hrefused⟩
  · obtain ⟨keys, keys', hagree, hrun, hrun'⟩ :=
      h.run_resolve ⟨nonce, clock, source⟩ ⟨nonce, clock, source'⟩ u
    rw [Iam.run_answer_of_resolved haccepted (congrArg (·.1.1) hrun),
      Iam.run_answer_of_resolved haccepted (congrArg (·.1.1) hrun'), hrun, hrun']
    exact ⟨alike_finalDocument hagree first _, rfl⟩
  · rw [Iam.run_answer_of_refused hrefused, Iam.run_answer_of_refused hrefused]
    exact ⟨.error e, rfl⟩

end Conversation

/-! ## Attempts -/

/-- A connection that answers the commands by their number, whatever they hold. -/
def Transport.scripted (replies : Nat → Except AuthError Document) : Transport :=
  fun sent => replies sent.length

/-- Two commands that are equal, or go to the same database and carry final messages that are alike
in the same conversation. -/
inductive Command.Alike : Command → Command → Prop
  | same (command : Command) : Alike command command
  | final {database : String} {id : Int32} {message message' : Bytes}
    (alike : Conversation.FinalAlike message message') :
    Alike ⟨database, Attempt.continueCommand id message⟩
      ⟨database, Attempt.continueCommand id message'⟩

namespace Attempt

open Conversation (AnswersAlike)

/-- Two attempts that end the same, with commands that are alike. -/
structure Alike (attempt attempt' : Attempt) : Prop where
  outcome : attempt'.outcome = attempt.outcome
  sent : List.Forall₂ Command.Alike attempt.sent attempt'.sent

theorem alike_fail (e : AuthError) {sent sent' : List Command}
    (h : List.Forall₂ Command.Alike sent sent') : (fail e sent).Alike (fail e sent') :=
  ⟨rfl, h⟩

theorem alike_finish (reply : Document) {sent sent' : List Command}
    (h : List.Forall₂ Command.Alike sent sent') :
    (finish reply sent).Alike (finish reply sent') := by
  unfold finish
  rcases reply.getBool "done" with e | _ | _
  · exact alike_fail _ h
  · exact alike_fail _ h
  · exact ⟨rfl, h⟩

/-- Alike answers lead to alike attempts over a scripted connection. -/
theorem alike_lastMessage (replies : Nat → Except AuthError Document) (database : String)
    (id : Int32) (start : Command) {step step' : Except AuthError Bytes}
    (h : AnswersAlike step step') :
    (lastMessage (.scripted replies) database id [start] step).Alike
      (lastMessage (.scripted replies) database id [start] step') := by
  cases h with
  | error e => exact alike_fail e (.cons (.same start) .nil)
  | @message message message' alike =>
    have hsent : List.Forall₂ Command.Alike
        [start, nextCommand database id message] [start, nextCommand database id message'] :=
      .cons (.same start) (.cons (.final alike) .nil)
    have hreply : send (.scripted replies) [start, nextCommand database id message'] =
        send (.scripted replies) [start, nextCommand database id message] := rfl
    unfold lastMessage
    simp only [List.cons_append, List.nil_append, hreply]
    cases send (.scripted replies) [start, nextCommand database id message] with
    | error e => exact alike_fail e hsent
    | ok reply => exact alike_finish reply hsent

/-- Alike commands go to the same database. -/
theorem databases_eq {sent sent' : List Command} (h : List.Forall₂ Command.Alike sent sent') :
    sent'.map (·.database) = sent.map (·.database) := by
  induction h with
  | nil => rfl
  | cons hcommand _ ih => cases hcommand <;> simp [ih]

/-- **The secrets have a part in the final message only.** For two credentials with explicit keys
for signing that agree on all that is not secret, over a connection that answers by the same script,
with the same nonces and the same clock and any two sources of key documents: the two attempts end
the same, in success or with the same error, and use the same of the surroundings. They send the
same number of commands to the same databases, equal ones except for final messages that differ in
the digits of the signature and in the session token. The credentials are shown by the same text. -/
theorem secrets_in_final_message_only {c c' : Credential} (h : c.AgreeButSecrets c')
    (replies : Nat → Except AuthError Document) (nonce : Nat → Nonce) (clock : Nat → Instant)
    (source source' : Nat → Except AuthError Metadata.Answer) (u : Usage) :
    let result := (authenticate c (.scripted replies)).run ⟨nonce, clock, source⟩ u
    let result' := (authenticate c' (.scripted replies)).run ⟨nonce, clock, source'⟩ u
    result'.1.outcome = result.1.outcome ∧
      List.Forall₂ Command.Alike result.1.sent result'.1.sent ∧
      result'.1.sent.map (·.database) = result.1.sent.map (·.database) ∧
      result'.2 = result.2 ∧ c'.describe = c.describe := by
  intro result result'
  suffices hattempts : result.1.Alike result'.1 ∧ result'.2 = result.2 from
    ⟨hattempts.1.outcome, hattempts.1.sent, databases_eq hattempts.1.sent, hattempts.2,
      h.describe_eq⟩
  have hstart : signingStart c' (nonce u.nonces) = signingStart c (nonce u.nonces) := by
    unfold signingStart
    rw [h.source]
  simp only [result, result', run_authenticate_of_signing h.ofCredential.1,
    run_authenticate_of_signing h.ofCredential.2, hstart, h.source]
  rcases challenged (.scripted replies) [signingStart c (nonce u.nonces)] with e | ⟨id, challenge⟩
  · exact ⟨alike_fail e (.cons (.same _) .nil), rfl⟩
  · obtain ⟨hanswers, husage⟩ := Conversation.alike_answer h (nonce u.nonces) challenge nonce clock
      source source' { u with nonces := u.nonces + 1 }
    exact ⟨alike_lastMessage replies c.source id _ hanswers, husage⟩

/-- Two credentials with different passwords and tokens, against a server that accepts both. -/
theorem secrets_in_final_message_only_of_tokens :
    let keys (password token : String) : Credential :=
      ({ mechanism := .aws, username := some "AKIDEXAMPLE", password := some password } :
        Credential).setProperty "AWS_SESSION_TOKEN" token
    let c := keys "secret" "token"
    let c' := keys "" "a longer token"
    let challenge := (Document.ofFields
      [("h", .text "sts.amazonaws.com"),
        ("s", .binary (Nonce.counting.bytes ++ Nonce.counting.bytes))]).encode
    let replies (n : Nat) : Except AuthError Document := .ok (.ofEntries
      [("ok", .int32 1), ("conversationId", .int32 7), ("done", .bool (n == 2)),
        ("payload", .binary challenge)])
    let s : Surroundings := ⟨fun _ => .counting, fun _ => .ofMilliseconds 1704110400000,
      fun _ => .error .conversationAborted⟩
    let attempt := ((authenticate c (.scripted replies)).run s {}).1
    let attempt' := ((authenticate c' (.scripted replies)).run s {}).1
    attempt.outcome = .ok () ∧ attempt'.outcome = .ok () ∧ attempt.sent.length = 2 ∧
      List.Forall₂ Command.Alike attempt.sent attempt'.sent ∧ c'.describe = c.describe := by
  intro keys c c' challenge replies s attempt attempt'
  have hagree : c.AgreeButSecrets c' :=
    { mechanism := ⟨rfl, rfl⟩
      username := ⟨nofun, rfl⟩
      password := ⟨nofun, nofun⟩
      source := rfl
      names := by
        intro name
        show (List.lookup name [("AWS_SESSION_TOKEN", _)]).isSome =
          (List.lookup name [("AWS_SESSION_TOKEN", _)]).isSome
        rw [List.lookup_cons, List.lookup_cons]
        cases name == "AWS_SESSION_TOKEN" <;> rfl
      tokens := by
        rintro _ _ ⟨⟩ ⟨⟩
        decide }
  obtain ⟨houtcome, hsent, -, -, hdescribe⟩ :=
    secrets_in_final_message_only hagree replies s.nonce s.clock s.source s.source {}
  have hchallenged : challenged (.scripted replies) [signingStart c (s.nonce 0)] =
      .ok (7, challenge) :=
    Except.toOption_eq_some_iff.mp (by decide +kernel)
  have haccepted : Conversation.ServerFirst.Accepted .counting challenge
      ⟨"sts.amazonaws.com", Nonce.counting.bytes ++ Nonce.counting.bytes⟩ :=
    Conversation.ServerFirst.read_eq_ok_iff.mp (Except.toOption_eq_some_iff.mp (by decide +kernel))
  have hdate : Signing.dateOf? (s.clock 0).timestamp = some "20240101" := by decide +kernel
  have hrun := Resolver.run_resolve_of_pair (r := { credential := c }) rfl rfl s { nonces := 1 }
  obtain ⟨message, hmessage⟩ := Conversation.Iam.exists_message (c := c) (s := s)
    (u := { nonces := 1 }) haccepted (congrArg (·.1.1) hrun) rfl hdate
  have hattempt : attempt =
      lastMessage (.scripted replies) c.source 7 [signingStart c (s.nonce 0)] (.ok message) := by
    show ((authenticate c (.scripted replies)).run s {}).1 = _
    rw [run_authenticate_of_signing hagree.ofCredential.1, ← hmessage]
    simp only [hchallenged]
    rfl
  have hok : attempt.outcome = .ok () := by
    have hchecked : (replies 2).bind Reply.check = replies 2 :=
      Except.toOption_eq_some_iff.mp (by decide +kernel)
    rw [hattempt]
    exact outcome_lastMessage_eq_ok_iff.mpr ⟨_, hchecked, rfl⟩
  refine ⟨hok, houtcome.trans hok, ?_, hsent, hdescribe⟩
  rw [hattempt, sent_lastMessage]
  rfl

end Attempt

end SaslClient
