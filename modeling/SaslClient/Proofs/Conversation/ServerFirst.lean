import SaslClient.Conversation.ServerFirst
import SaslClient.Except
import SaslClient.Proofs.Document.Fields

/-!
# Which first messages of the server are accepted

A challenge is accepted for a nonce if it holds a host and a server nonce, and both pass every
check (`ServerFirst.Accepted`). Otherwise it is refused for the first check that fails
(`ServerFirst.Refused`).

Main results:

* `read_eq_ok_iff`: reading gives exactly what the accepted challenges hold.
* `read_eq_error_iff`: reading fails exactly with the first fault of a refused challenge.
* `accepted_or_refused`: every challenge is either accepted or refused.
* `refused_of_accepted_of_ne`: a challenge accepted for one nonce is refused for every other one,
  because it does not begin with it.
-/

namespace SaslClient.Conversation.ServerFirst

/-! ## Accepted and refused challenges -/

/-- The challenge is a document whose first field `h` is the host and whose first field `s` is the
server nonce. -/
def Holds (challenge : Bytes) (first : ServerFirst) : Prop :=
  ∃ d, Document.decode challenge = .ok d ∧ d.entries.lookup "h" = some (.text first.host) ∧
    d.entries.lookup "s" = some (.binary first.nonce)

/-- The challenge holds a host that a region can be read off, and a server nonce of sixty-four bytes
that begins with the client's. -/
structure Accepted (n : Nonce) (challenge : Bytes) (first : ServerFirst) : Prop where
  holds : Holds challenge first
  length : first.nonce.length = 64
  echoes : n.bytes <+: first.nonce
  region : ∃ region, Region.ofHost first.host = .ok region

/-- The challenge is refused with an error: that of its first fault, all earlier checks having
passed. -/
inductive Refused (n : Nonce) (challenge : Bytes) : AuthError → Prop
  | undecodable {e : DocumentError} (fault : Document.decode challenge = .error e) :
    Refused n challenge (.document e)
  | noHost {d : Document} (decoded : Document.decode challenge = .ok d)
    (fault : d.entries.lookup "h" = none) : Refused n challenge (.document (.missingField "h"))
  | hostType {d : Document} {v : Value} (decoded : Document.decode challenge = .ok d)
    (found : d.entries.lookup "h" = some v) (fault : ∀ host, v ≠ .text host) :
    Refused n challenge (.document (.fieldType "h" .text))
  | noNonce {d : Document} {host : String} (decoded : Document.decode challenge = .ok d)
    (hostFound : d.entries.lookup "h" = some (.text host))
    (fault : d.entries.lookup "s" = none) : Refused n challenge (.document (.missingField "s"))
  | nonceType {d : Document} {host : String} {v : Value}
    (decoded : Document.decode challenge = .ok d)
    (hostFound : d.entries.lookup "h" = some (.text host))
    (found : d.entries.lookup "s" = some v) (fault : ∀ bytes, v ≠ .binary bytes) :
    Refused n challenge (.document (.fieldType "s" .binary))
  | nonceLength {first : ServerFirst} (holds : Holds challenge first)
    (fault : first.nonce.length ≠ 64) :
    Refused n challenge (.invalidServerNonce (.wrongLength 64 first.nonce.length))
  | notEchoed {first : ServerFirst} (holds : Holds challenge first)
    (length : first.nonce.length = 64) (fault : ¬ n.bytes <+: first.nonce) :
    Refused n challenge (.invalidServerNonce .notEchoed)
  | noRegion {first : ServerFirst} {e : SigningError} (holds : Holds challenge first)
    (length : first.nonce.length = 64) (echoes : n.bytes <+: first.nonce)
    (fault : Region.ofHost first.host = .error e) : Refused n challenge (.signing e)

/-! ## The checks of a server nonce -/

theorem take_eq_bytes_iff {n : Nonce} {nonce : Bytes} :
    nonce.take Nonce.size = n.bytes ↔ n.bytes <+: nonce := by
  rw [List.prefix_iff_eq_take, n.length_eq, eq_comm]

theorem checkNonce_eq_ok_iff {n : Nonce} {nonce : Bytes} {a : Unit} :
    checkNonce n nonce = .ok a ↔ nonce.length = 64 ∧ n.bytes <+: nonce := by
  have hsize : nonceSize = 64 := rfl
  unfold checkNonce
  rw [hsize, ← take_eq_bytes_iff]
  by_cases hlength : nonce.length = 64 <;> by_cases htake : nonce.take Nonce.size = n.bytes <;>
    simp [hlength, htake]

theorem checkNonce_eq_error_iff {n : Nonce} {nonce : Bytes} {e : AuthError} :
    checkNonce n nonce = .error e ↔
      nonce.length ≠ 64 ∧ e = .invalidServerNonce (.wrongLength 64 nonce.length) ∨
      nonce.length = 64 ∧ ¬ n.bytes <+: nonce ∧ e = .invalidServerNonce .notEchoed := by
  have hsize : nonceSize = 64 := rfl
  unfold checkNonce
  rw [hsize, ← take_eq_bytes_iff]
  by_cases hlength : nonce.length = 64 <;> by_cases htake : nonce.take Nonce.size = n.bytes <;>
    simp [hlength, htake, eq_comm]

/-! ## Reading -/

/-- Reading succeeds exactly on accepted challenges. -/
theorem read_eq_ok_iff {n : Nonce} {challenge : Bytes} {first : ServerFirst} :
    read n challenge = .ok first ↔ Accepted n challenge first := by
  unfold read
  simp only [Except.bind_eq_ok_iff, Except.mapError_eq_ok_iff, Document.getText_eq_ok_iff,
    Document.getBinary_eq_ok_iff, checkNonce_eq_ok_iff, Document.get?_eq_lookup, Except.ok.injEq]
  constructor
  · rintro ⟨d, hd, host, hh, nonce, hs, -, ⟨hlength, hechoes⟩, region, hregion, rfl⟩
    exact ⟨⟨d, hd, hh, hs⟩, hlength, hechoes, region, hregion⟩
  · rintro ⟨⟨d, hd, hh, hs⟩, hlength, hechoes, region, hregion⟩
    exact ⟨d, hd, first.host, hh, first.nonce, hs, (), ⟨hlength, hechoes⟩, region, hregion, rfl⟩

/-- Reading fails exactly with the first fault of a refused challenge. -/
theorem read_eq_error_iff {n : Nonce} {challenge : Bytes} {e : AuthError} :
    read n challenge = .error e ↔ Refused n challenge e := by
  unfold read
  simp only [Except.bind_eq_error_iff, Except.mapError_eq_ok_iff, Except.mapError_eq_error_iff,
    Document.getText_eq_ok_iff, Document.getBinary_eq_ok_iff, Document.getText_eq_error_iff,
    Document.getBinary_eq_error_iff, checkNonce_eq_ok_iff, checkNonce_eq_error_iff,
    Document.get?_eq_lookup]
  constructor
  · rintro (⟨e, hd, rfl⟩ | ⟨d, hd, ⟨e, ⟨hh, rfl⟩ | ⟨v, hv, hh, rfl⟩, rfl⟩ | ⟨host, hh, hrest⟩⟩)
    · exact .undecodable hd
    · exact .noHost hd hh
    · exact .hostType hd hv hh
    obtain ⟨e, ⟨hs, rfl⟩ | ⟨v, hv, hs, rfl⟩, rfl⟩ | ⟨nonce, hs, hrest⟩ := hrest
    · exact .noNonce hd hh hs
    · exact .nonceType hd hh hv hs
    have holds : Holds challenge ⟨host, nonce⟩ := ⟨d, hd, hh, hs⟩
    obtain (⟨hlength, rfl⟩ | ⟨hlength, hechoes, rfl⟩) | ⟨-, ⟨hlength, hechoes⟩, hregion⟩ := hrest
    · exact .nonceLength holds hlength
    · exact .notEchoed holds hlength hechoes
    · obtain ⟨e, he, rfl⟩ | ⟨region, -, habsurd⟩ := hregion
      · exact .noRegion holds hlength hechoes he
      · cases habsurd
  · intro h
    cases h with
    | undecodable hd => exact .inl ⟨_, hd, rfl⟩
    | noHost hd hh => exact .inr ⟨_, hd, .inl ⟨_, .inl ⟨hh, rfl⟩, rfl⟩⟩
    | hostType hd hv hh => exact .inr ⟨_, hd, .inl ⟨_, .inr ⟨_, hv, hh, rfl⟩, rfl⟩⟩
    | noNonce hd hh hs => exact .inr ⟨_, hd, .inr ⟨_, hh, .inl ⟨_, .inl ⟨hs, rfl⟩, rfl⟩⟩⟩
    | nonceType hd hh hv hs =>
      exact .inr ⟨_, hd, .inr ⟨_, hh, .inl ⟨_, .inr ⟨_, hv, hs, rfl⟩, rfl⟩⟩⟩
    | nonceLength holds hlength =>
      obtain ⟨d, hd, hh, hs⟩ := holds
      exact .inr ⟨d, hd, .inr ⟨_, hh, .inr ⟨_, hs, .inl (.inl ⟨hlength, rfl⟩)⟩⟩⟩
    | notEchoed holds hlength hechoes =>
      obtain ⟨d, hd, hh, hs⟩ := holds
      exact .inr ⟨d, hd, .inr ⟨_, hh, .inr ⟨_, hs, .inl (.inr ⟨hlength, hechoes, rfl⟩)⟩⟩⟩
    | noRegion holds hlength hechoes he =>
      obtain ⟨d, hd, hh, hs⟩ := holds
      exact .inr ⟨d, hd, .inr ⟨_, hh, .inr ⟨_, hs, .inr ⟨(), ⟨hlength, hechoes⟩,
        .inl ⟨_, he, rfl⟩⟩⟩⟩⟩

/-- Every challenge is either accepted or refused. -/
theorem accepted_or_refused (n : Nonce) (challenge : Bytes) :
    (∃ first, Accepted n challenge first) ∨ ∃ e, Refused n challenge e := by
  cases h : read n challenge with
  | ok first => exact .inl ⟨first, read_eq_ok_iff.mp h⟩
  | error e => exact .inr ⟨e, read_eq_error_iff.mp h⟩

/-- A challenge that is accepted holds one host and one server nonce. -/
theorem Accepted.unique {n : Nonce} {challenge : Bytes} {first first' : ServerFirst}
    (h : Accepted n challenge first) (h' : Accepted n challenge first') : first = first' := by
  have heq := (read_eq_ok_iff.mpr h).symm.trans (read_eq_ok_iff.mpr h')
  exact Except.ok.inj heq

/-- What is refused is not accepted. -/
theorem Refused.not_accepted {n : Nonce} {challenge : Bytes} {e : AuthError}
    (h : Refused n challenge e) (first : ServerFirst) : ¬ Accepted n challenge first := by
  intro haccepted
  have heq := (read_eq_error_iff.mpr h).symm.trans (read_eq_ok_iff.mpr haccepted)
  cases heq

/-- Two nonces that one message begins with are equal, so a challenge accepted for one nonce is
refused for every other. -/
theorem refused_of_accepted_of_ne {n n' : Nonce} {challenge : Bytes} {first : ServerFirst}
    (h : Accepted n challenge first) (hne : n' ≠ n) :
    Refused n' challenge (.invalidServerNonce .notEchoed) := by
  refine .notEchoed h.holds h.length fun hechoes => hne ?_
  have htake : n'.bytes = n.bytes :=
    (take_eq_bytes_iff.mpr hechoes).symm.trans (take_eq_bytes_iff.mpr h.echoes)
  cases n
  cases n'
  simpa using htake

end SaslClient.Conversation.ServerFirst
