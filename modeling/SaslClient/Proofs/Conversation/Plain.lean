import Mathlib.Data.List.Basic
import Mathlib.Data.List.TakeWhile
import SaslClient.Proofs.Conversation.LifeCycle

/-!
# What a plain message says

A plain message is a zero byte, the username, a zero byte and the password. It is taken apart at its
first two zero bytes, so the pair is found again if and only if the username holds no NUL. The check
of the configuration asks for a username and a password but not for this: with a NUL in either of
them the message is that of another pair, too.

Main results:

* `fields?_eq_some_iff`: how a message is taken apart.
* `message_read_back_iff`: when the pair is found again, and when the message belongs to one pair.
* `message_shared`: two credentials that are accepted and have one message.
-/

namespace SaslClient.Conversation.Plain

/-! ## Taking a message apart -/

/-- The fields of a message: behind the zero byte in front, the bytes up to the next zero byte, and
those behind it. -/
def fields? : Bytes → Option (Bytes × Bytes)
  | [] => none
  | b :: bytes =>
    if b = 0 then
      match bytes.dropWhile (· ≠ 0) with
      | [] => none
      | _ :: password => some (bytes.takeWhile (· ≠ 0), password)
    else none

theorem fields?_eq_some_iff {bytes username password : Bytes} :
    fields? bytes = some (username, password) ↔
      bytes = 0 :: username ++ 0 :: password ∧ 0 ∉ username := by
  constructor
  · intro h
    unfold fields? at h
    split at h
    · cases h
    next b rest =>
      split at h
      next hb =>
        split at h
        · cases h
        next sep password' hdrop =>
          simp only [Option.some.injEq, Prod.mk.injEq] at h
          obtain ⟨rfl, rfl⟩ := h
          have hsep : sep = 0 := by
            have hnot := List.head?_dropWhile_not (fun b : UInt8 => decide (b ≠ 0)) rest
            rw [hdrop] at hnot
            simpa using hnot
          have hrest := List.takeWhile_append_dropWhile (p := fun b : UInt8 => decide (b ≠ 0))
            (l := rest)
          rw [hdrop, hsep] at hrest
          refine ⟨by rw [hb, List.cons_append, hrest], ?_⟩
          intro hzero
          have hne := List.mem_takeWhile_imp hzero
          simp at hne
      · cases h
  · rintro ⟨rfl, hzero⟩
    have hne : ∀ b ∈ username, decide (b ≠ 0) = true := by
      intro b hb
      exact decide_eq_true (ne_of_mem_of_not_mem hb hzero)
    rw [List.cons_append, fields?, if_pos rfl, List.dropWhile_append_of_pos hne,
      List.takeWhile_append_of_pos hne]
    simp

/-! ## Zero bytes and NULs -/

theorem encode_nul : Utf8.encode "\x00" = [0] := by decide

/-- A NUL in the username can as well end it. -/
theorem payload_shift (front back password : String) :
    payload (front ++ "\x00" ++ back) password = payload front (back ++ "\x00" ++ password) := by
  simp [payload, encode_nul]

/-- A text with a NUL is what stands before it and what stands behind it. -/
theorem exists_eq_append_nul {s : String} (h : '\x00' ∈ s.toList) :
    ∃ front back, s = front ++ "\x00" ++ back := by
  obtain ⟨front, back, hsplit⟩ := List.append_of_mem h
  refine ⟨String.ofList front, String.ofList back, String.toList_inj.mp ?_⟩
  have hnul : "\x00".toList = ['\x00'] := rfl
  simp [hsplit, hnul]

theorem fields?_payload_iff (username password : String) :
    fields? (payload username password) = some (Utf8.encode username, Utf8.encode password) ↔
      '\x00' ∉ username.toList := by
  rw [fields?_eq_some_iff, Utf8.zero_mem_encode_iff]
  simp [payload]

/-- Without a NUL in either field no other pair has the message. -/
theorem eq_of_payload_eq {username password username' password' : String}
    (hu : '\x00' ∉ username.toList) (hp : '\x00' ∉ password.toList)
    (h : payload username' password' = payload username password) :
    username' = username ∧ password' = password := by
  have hu' : 0 ∉ Utf8.encode username := mt (Utf8.zero_mem_encode_iff username).mp hu
  have hp' : 0 ∉ Utf8.encode password := mt (Utf8.zero_mem_encode_iff password).mp hp
  have happend : Utf8.encode username ++ 0 :: Utf8.encode password =
      Utf8.encode username' ++ 0 :: Utf8.encode password' := (List.cons.inj h).2.symm
  obtain ⟨husername, -, hpassword⟩ := (List.append_cons_inj_of_notMem hu' hp').mp happend
  exact ⟨Utf8.encode_injective husername.symm, Utf8.encode_injective hpassword.symm⟩

/-- With a NUL in either field another pair has the message, too. -/
theorem exists_other_pair {username password : String}
    (h : '\x00' ∈ username.toList ∨ '\x00' ∈ password.toList) :
    ∃ username' password', payload username' password' = payload username password ∧
      username' ≠ username := by
  have hlonger (front back : String) : front ≠ front ++ "\x00" ++ back := by
    intro heq
    have hlength := congrArg String.length heq
    have hnul : "\x00".length = 1 := rfl
    simp only [String.length_append] at hlength
    omega
  rcases h with hu | hp
  · obtain ⟨front, back, rfl⟩ := exists_eq_append_nul hu
    exact ⟨front, back ++ "\x00" ++ password, (payload_shift front back password).symm,
      hlonger front back⟩
  · obtain ⟨front, back, rfl⟩ := exists_eq_append_nul hp
    exact ⟨username ++ "\x00" ++ front, back, payload_shift username front back,
      (hlonger username front).symm⟩

/-! ## Messages of credentials -/

/-- The message of a credential that is accepted. -/
theorem message_of_check {c : Credential} (h : check c = .ok ()) :
    ∃ username password, c.username = some username ∧ c.password = some password ∧
      (start c).evaluate.1 = .ok (payload username password) := by
  obtain ⟨username, password, hu, hp⟩ := check_eq_ok_iff.mp h
  refine ⟨username, password, hu, hp, ?_⟩
  rw [evaluate_start_of_pair hu hp]

/-- **What a plain message says.** A credential that is accepted has a message. Taken apart at its
first two zero bytes, the message gives back the username and the password if and only if the
username holds no NUL, so credentials whose usernames hold none can be told apart. No other accepted
pair has the same message if and only if neither the username nor the password holds a NUL. -/
theorem message_read_back_iff {c : Credential} (hcheck : check c = .ok ()) :
    ∃ username password bytes, c.username = some username ∧ c.password = some password ∧
      (start c).evaluate.1 = .ok bytes ∧
      (fields? bytes = some (Utf8.encode username, Utf8.encode password) ↔
        '\x00' ∉ username.toList) ∧
      (∀ c', check c' = .ok () → (start c').evaluate.1 = .ok bytes → '\x00' ∉ username.toList →
        (∀ username', c'.username = some username' → '\x00' ∉ username'.toList) →
        c'.username = c.username ∧ c'.password = c.password) ∧
      ((∀ c', check c' = .ok () → (start c').evaluate.1 = .ok bytes →
          c'.username = c.username ∧ c'.password = c.password) ↔
        '\x00' ∉ username.toList ∧ '\x00' ∉ password.toList) := by
  obtain ⟨username, password, hu, hp, hmessage⟩ := message_of_check hcheck
  refine ⟨username, password, _, hu, hp, hmessage, fields?_payload_iff username password, ?_, ?_⟩
  · intro c' hcheck' hmessage' hnul hnul'
    obtain ⟨username', password', hu', hp', hother⟩ := message_of_check hcheck'
    have hpayload := Except.ok.inj (hother.symm.trans hmessage')
    have hfields := (fields?_payload_iff username password).mpr hnul
    have hfields' := (fields?_payload_iff username' password').mpr (hnul' username' hu')
    rw [hpayload, hfields] at hfields'
    obtain ⟨husername, hpassword⟩ := Prod.mk.inj (Option.some.inj hfields')
    rw [hu, hp, hu', hp', Utf8.encode_injective husername, Utf8.encode_injective hpassword]
    exact ⟨rfl, rfl⟩
  · rw [hu, hp]
    constructor
    · intro halone
      have hnone : ¬ ('\x00' ∈ username.toList ∨ '\x00' ∈ password.toList) := by
        intro hnul
        obtain ⟨username', password', hpayload, hne⟩ := exists_other_pair hnul
        have hother := halone { c with username := some username', password := some password' }
          (check_eq_ok_iff.mpr ⟨username', password', rfl, rfl⟩)
          (by rw [evaluate_start_of_pair rfl rfl, hpayload])
        exact hne (Option.some.inj hother.1)
      exact not_or.mp hnone
    · rintro ⟨hnul, hnul'⟩ c' hcheck' hmessage'
      obtain ⟨username', password', hu', hp', hother⟩ := message_of_check hcheck'
      have hpayload := Except.ok.inj (hother.symm.trans hmessage')
      obtain ⟨rfl, rfl⟩ := eq_of_payload_eq hnul hnul' hpayload
      exact ⟨hu', hp'⟩

/-- The message of an ordinary pair. -/
theorem message_read_back_ordinary :
    ∃ bytes, (start { mechanism := .plain, username := "app", password := "pencil" }).evaluate.1 =
        .ok bytes ∧
      fields? bytes = some (Utf8.encode "app", Utf8.encode "pencil") := by
  obtain ⟨username, password, bytes, hu, hp, hmessage, hfields, -⟩ :=
    message_read_back_iff (c := { mechanism := .plain, username := "app", password := "pencil" }) rfl
  obtain rfl := Option.some.inj hu
  obtain rfl := Option.some.inj hp
  exact ⟨bytes, hmessage, hfields.mpr (by decide)⟩

/-- Two accepted credentials with different usernames and passwords have the same message, and it is
taken apart as that of the second. -/
theorem message_shared :
    ∃ (c c' : Credential) (bytes : Bytes), check c = .ok () ∧ check c' = .ok () ∧
      (start c).evaluate.1 = .ok bytes ∧ (start c').evaluate.1 = .ok bytes ∧
      c.username = some "a\x00b" ∧ c.password = some "c" ∧
      c'.username = some "a" ∧ c'.password = some "b\x00c" ∧
      fields? bytes = some (Utf8.encode "a", Utf8.encode "b\x00c") := by
  refine ⟨{ mechanism := .plain, username := "a\x00b", password := "c" },
    { mechanism := .plain, username := "a", password := "b\x00c" }, payload "a" "b\x00c",
    rfl, rfl, ?_, rfl, rfl, rfl, rfl, rfl, by decide⟩
  decide

end SaslClient.Conversation.Plain
