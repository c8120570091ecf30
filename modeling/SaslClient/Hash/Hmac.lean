import SaslClient.Hash.Sha256

/-!
# Keyed hashes

HMAC over SHA-256. Main result: `length_sha256`, a keyed hash has thirty-two bytes.
-/

namespace SaslClient.Hmac

/-- The key at block length: a longer key is hashed first, a shorter one filled with zeros. -/
def blockKey (key : Bytes) : Bytes :=
  let key := if Sha256.blockLength < key.length then Sha256.digest key else key
  key ++ List.replicate (Sha256.blockLength - key.length) 0

/-- The keyed hash of a message. -/
def sha256 (key message : Bytes) : Bytes :=
  let key := blockKey key
  let inner := Sha256.digest (key.map (· ^^^ 0x36) ++ message)
  Sha256.digest (key.map (· ^^^ 0x5c) ++ inner)

@[simp] theorem length_sha256 (key message : Bytes) : (sha256 key message).length = 32 := by
  simp [sha256]

end SaslClient.Hmac
