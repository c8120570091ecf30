import SaslClient.Bytes.Basic

/-!
# Nonces

The random bytes that a client contributes to a conversation.
-/

namespace SaslClient

/-- The number of bytes that a client contributes. -/
def Nonce.size : Nat := 32

/-- The random bytes of a client. -/
structure Nonce where
  bytes : Bytes
  length_eq : bytes.length = Nonce.size
deriving DecidableEq

namespace Nonce

/-- The nonce with these bytes, if their number is right. -/
def ofBytes? (bytes : Bytes) : Option Nonce :=
  if h : bytes.length = size then some ⟨bytes, h⟩ else none

/-- The bytes `0, 1, 2, …`. -/
def counting : Nonce :=
  ⟨(List.range size).map UInt8.ofNat, by simp⟩

/-- A nonce for display, which shows nothing of it. -/
def describe (_ : Nonce) : String :=
  "ClientNonce(..)"

end Nonce

end SaslClient
