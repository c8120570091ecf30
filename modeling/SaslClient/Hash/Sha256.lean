import SaslClient.Bytes.LittleEndian

/-!
# SHA-256

The message is padded to whole blocks of sixty-four bytes; each block is expanded to sixty-four
words and mixed into a state of eight. The digest is the final state, big-endian.

Main result: `length_digest`, a digest has thirty-two bytes.
-/

namespace SaslClient.Sha256

/-- The bytes of a number, most significant first. -/
def bigEndian (width n : Nat) : Bytes :=
  (LittleEndian.encode width n).reverse

/-- The number of bytes in a block. -/
def blockLength : Nat := 64

/-- The constants of the sixty-four rounds. -/
def roundConstants : List UInt32 := [
  0x428a2f98, 0x71374491, 0xb5c0fbcf, 0xe9b5dba5, 0x3956c25b, 0x59f111f1, 0x923f82a4, 0xab1c5ed5,
  0xd807aa98, 0x12835b01, 0x243185be, 0x550c7dc3, 0x72be5d74, 0x80deb1fe, 0x9bdc06a7, 0xc19bf174,
  0xe49b69c1, 0xefbe4786, 0x0fc19dc6, 0x240ca1cc, 0x2de92c6f, 0x4a7484aa, 0x5cb0a9dc, 0x76f988da,
  0x983e5152, 0xa831c66d, 0xb00327c8, 0xbf597fc7, 0xc6e00bf3, 0xd5a79147, 0x06ca6351, 0x14292967,
  0x27b70a85, 0x2e1b2138, 0x4d2c6dfc, 0x53380d13, 0x650a7354, 0x766a0abb, 0x81c2c92e, 0x92722c85,
  0xa2bfe8a1, 0xa81a664b, 0xc24b8b70, 0xc76c51a3, 0xd192e819, 0xd6990624, 0xf40e3585, 0x106aa070,
  0x19a4c116, 0x1e376c08, 0x2748774c, 0x34b0bcb5, 0x391c0cb3, 0x4ed8aa4a, 0x5b9cca4f, 0x682e6ff3,
  0x748f82ee, 0x78a5636f, 0x84c87814, 0x8cc70208, 0x90befffa, 0xa4506ceb, 0xbef9a3f7, 0xc67178f2]

/-- The eight words that are mixed. -/
structure State where
  a : UInt32
  b : UInt32
  c : UInt32
  d : UInt32
  e : UInt32
  f : UInt32
  g : UInt32
  h : UInt32
deriving DecidableEq

/-- The state before the first block. -/
def initial : State :=
  ⟨0x6a09e667, 0xbb67ae85, 0x3c6ef372, 0xa54ff53a, 0x510e527f, 0x9b05688c, 0x1f83d9ab, 0x5be0cd19⟩

/-- The word turned right by `k` bits, for `0 < k < 32`. -/
def rotate (k : UInt32) (x : UInt32) : UInt32 :=
  (x >>> k) ||| (x <<< (32 - k))

/-- Sixteen words expanded to `n`: each word falls out at the front of the window while the next is
computed from four words inside. -/
def expand : (n : Nat) → (window : List UInt32) → List UInt32
  | 0, _ => []
  | n + 1, window =>
    let w (i : Nat) := window.getD i 0
    let s0 := rotate 7 (w 1) ^^^ rotate 18 (w 1) ^^^ (w 1 >>> 3)
    let s1 := rotate 17 (w 14) ^^^ rotate 19 (w 14) ^^^ (w 14 >>> 10)
    w 0 :: expand n (window.drop 1 ++ [w 0 + s0 + w 9 + s1])

/-- One round, with its constant and its word. -/
def round (s : State) (constant word : UInt32) : State :=
  let s1 := rotate 6 s.e ^^^ rotate 11 s.e ^^^ rotate 25 s.e
  let choice := (s.e &&& s.f) ^^^ (~~~s.e &&& s.g)
  let t1 := s.h + s1 + choice + constant + word
  let s0 := rotate 2 s.a ^^^ rotate 13 s.a ^^^ rotate 22 s.a
  let majority := (s.a &&& s.b) ^^^ (s.a &&& s.c) ^^^ (s.b &&& s.c)
  ⟨t1 + (s0 + majority), s.a, s.b, s.c, s.d + t1, s.e, s.f, s.g⟩

/-- The word at an index of a block. -/
def wordAt (block : Bytes) (i : Nat) : UInt32 :=
  UInt32.ofNat (LittleEndian.decode ((block.drop (4 * i)).take 4).reverse)

/-- One block mixed into the state. -/
def compress (s : State) (block : Bytes) : State :=
  let words := expand 64 ((List.range 16).map (wordAt block))
  let t := (roundConstants.zip words).foldl (fun t kw => round t kw.1 kw.2) s
  ⟨s.a + t.a, s.b + t.b, s.c + t.c, s.d + t.d, s.e + t.e, s.f + t.f, s.g + t.g, s.h + t.h⟩

/-- The message with a one bit, zeros and its length in bits, filling whole blocks. -/
def pad (message : Bytes) : Bytes :=
  message ++ 0x80 :: (List.replicate ((119 - message.length % 64) % 64) 0 ++
    bigEndian 8 (8 * message.length))

/-- The blocks of a padded message. -/
def blocks (padded : Bytes) : List Bytes :=
  (List.range (padded.length / blockLength)).map fun i =>
    (padded.drop (blockLength * i)).take blockLength

/-- The bytes of a state. -/
def State.bytes (s : State) : Bytes :=
  [s.a, s.b, s.c, s.d, s.e, s.f, s.g, s.h].flatMap fun w => bigEndian 4 w.toNat

/-- The digest of a message. -/
def digest (message : Bytes) : Bytes :=
  ((blocks (pad message)).foldl compress initial).bytes

@[simp] theorem length_bigEndian (width n : Nat) : (bigEndian width n).length = width := by
  simp [bigEndian]

@[simp] theorem length_digest (message : Bytes) : (digest message).length = 32 := by
  simp [digest, State.bytes]

end SaslClient.Sha256
