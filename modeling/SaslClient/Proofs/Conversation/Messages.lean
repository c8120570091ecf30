import SaslClient.Conversation.Iam
import SaslClient.Proofs.Conversation.ServerFirst
import SaslClient.Proofs.Document.Decode
import SaslClient.Proofs.Signing.Region

/-!
# Messages read on the other side

What the two sides of a signing conversation write before anything is signed, read back: the nonce
in the client's first message, and the host and the nonce in the server's.

Main results:

* `decode_firstDocument`: the first message holds the client's nonce.
* `accepted_greeting_iff`: a server that echoes the nonce is accepted exactly if the host has a
  region.
-/

namespace SaslClient.Conversation

theorem decode_encode_of_shallow {d : Document} (hnul : d.NulFree) (hdepth : d.depth = 0)
    (hlength : d.encode.length < 2 ^ 31) : Document.decode d.encode = .ok d :=
  Document.decode_eq_ok_iff.mpr ⟨d.fits_encode, hlength, hnul, hdepth ▸ Nat.zero_le _⟩

/-! ## The client's first message -/

theorem nulFree_firstDocument (n : Nonce) : (Iam.firstDocument n).NulFree :=
  ⟨(by decide : '\x00' ∉ "r".toList), trivial, (by decide : '\x00' ∉ "p".toList), trivial, trivial⟩

theorem length_encode_firstDocument (n : Nonce) : (Iam.firstDocument n).encode.length = 52 := by
  have hr : "r".utf8ByteSize = 1 := by decide
  have hp : "p".utf8ByteSize = 1 := by decide
  have hn : n.bytes.length = 32 := n.length_eq
  have hfields : Iam.firstDocument n =
      .field "r" (.binary n.bytes) (.field "p" (.int32 Iam.noChannelBinding) .empty) := rfl
  rw [hfields, Document.encode, length_frame]
  simp [Document.encodeFields, Value.encode, hr, hp, hn]

/-- The first message is read as a document whose field `r` is the nonce. -/
theorem decode_firstDocument (n : Nonce) :
    Document.decode (Iam.firstDocument n).encode = .ok (Iam.firstDocument n) ∧
      (Iam.firstDocument n).get? "r" = some (.binary n.bytes) := by
  refine ⟨decode_encode_of_shallow (nulFree_firstDocument n) rfl ?_, rfl⟩
  rw [length_encode_firstDocument]
  decide

/-! ## The server's first message -/

/-- The document that a server answers with. -/
def greeting (host : String) (nonce : Bytes) : Document :=
  .ofFields [("h", .text host), ("s", .binary nonce)]

theorem nulFree_greeting (host : String) (nonce : Bytes) : (greeting host nonce).NulFree :=
  ⟨(by decide : '\x00' ∉ "h".toList), trivial, (by decide : '\x00' ∉ "s".toList), trivial, trivial⟩

theorem length_encode_greeting (host : String) (nonce : Bytes) :
    (greeting host nonce).encode.length = host.utf8ByteSize + nonce.length + 21 := by
  have hh : "h".utf8ByteSize = 1 := by decide
  have hs : "s".utf8ByteSize = 1 := by decide
  have hfields : greeting host nonce =
      .field "h" (.text host) (.field "s" (.binary nonce) .empty) := rfl
  rw [hfields, Document.encode, length_frame]
  simp [Document.encodeFields, Value.encode, hh, hs]
  omega

/-- A host with a region is no longer than a host may be. -/
theorem utf8ByteSize_le_of_region {host region : String} (h : Region.ofHost host = .ok region) :
    host.utf8ByteSize ≤ Region.maxHostLength := by
  have hfault := (Region.ofHost_eq_ok_iff.mp h).1
  exact (Region.hostFault?_eq_none_iff.mp hfault).1

/-- A challenge that is a greeting holds its host and its nonce, and nothing else. -/
theorem holds_greeting {host : String} {nonce : Bytes} {first : ServerFirst}
    (h : ServerFirst.Holds (greeting host nonce).encode first) : first = ⟨host, nonce⟩ := by
  obtain ⟨d, hd, hhost, hnonce⟩ := h
  have hlength := (Document.decode_eq_ok_iff.mp hd).2.1
  have hback := decode_encode_of_shallow (nulFree_greeting host nonce) rfl hlength
  obtain rfl := Except.ok.inj (hback.symm.trans hd)
  rw [← Document.get?_eq_lookup] at hhost hnonce
  have hhost' : host = first.host := Value.text.inj (Option.some.inj hhost)
  have hnonce' : nonce = first.nonce := Value.binary.inj (Option.some.inj hnonce)
  rw [hhost', hnonce']

/-- A server that echoes the nonce is accepted exactly if the host has a region. -/
theorem accepted_greeting_iff {n : Nonce} {host : String} {nonce : Bytes} {first : ServerFirst}
    (hlength : nonce.length = 64) (hechoes : n.bytes <+: nonce) :
    ServerFirst.Accepted n (greeting host nonce).encode first ↔
      first = ⟨host, nonce⟩ ∧ ∃ region, Region.ofHost host = .ok region := by
  constructor
  · intro h
    obtain rfl := holds_greeting h.holds
    exact ⟨rfl, h.region⟩
  · rintro ⟨rfl, region, hregion⟩
    have hhost := utf8ByteSize_le_of_region hregion
    have hback : Document.decode (greeting host nonce).encode = .ok (greeting host nonce) := by
      refine decode_encode_of_shallow (nulFree_greeting host nonce) rfl ?_
      rw [length_encode_greeting, hlength]
      unfold Region.maxHostLength at hhost
      omega
    exact ⟨⟨greeting host nonce, hback, rfl, rfl⟩, hlength, hechoes, region, hregion⟩

end SaslClient.Conversation
