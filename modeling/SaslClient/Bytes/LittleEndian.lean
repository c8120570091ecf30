import SaslClient.Bytes.Basic

/-!
# Little-endian numbers

A number in a fixed count of bytes, least significant byte first. Writing keeps the low bits only.

Main results:

* `length_encode`: writing takes exactly the bytes asked for.
* `decode_encode`: reading gives back what the bytes can hold of the number.
* `encode_decode`, `decode_eq_iff`: bytes are determined by the number they read as.
* `decodeSigned_eq_natCast_iff`: which bytes stand for a natural number when they are signed.
-/

namespace SaslClient.LittleEndian

/-- How many numbers so many bytes can tell apart. -/
def capacity : (width : Nat) → Nat
  | 0 => 1
  | width + 1 => 256 * capacity width

/-- The low `width` bytes of `n`, least significant first. -/
def encode : (width : Nat) → (n : Nat) → Bytes
  | 0, _ => []
  | width + 1, n => UInt8.ofNat n :: encode width (n / 256)

/-- The number that the bytes stand for. -/
def decode : Bytes → Nat
  | [] => 0
  | b :: bs => b.toNat + 256 * decode bs

@[simp] theorem length_encode (width n : Nat) : (encode width n).length = width := by
  induction width generalizing n with
  | zero => rfl
  | succ width ih => simp [encode, ih]

theorem decode_encode (width n : Nat) : decode (encode width n) = n % capacity width := by
  induction width generalizing n with
  | zero => simp [encode, decode, capacity, Nat.mod_one]
  | succ width ih =>
    rw [encode, decode, ih, capacity, Nat.mod_mul]
    simp

theorem decode_lt (bs : Bytes) : decode bs < capacity bs.length := by
  induction bs with
  | nil => simp [decode, capacity]
  | cons b bs ih =>
    have hb : b.toNat < 256 := b.toNat_lt
    rw [decode, List.length_cons, capacity]
    omega

theorem encode_decode (bs : Bytes) : encode bs.length (decode bs) = bs := by
  induction bs with
  | nil => rfl
  | cons b bs ih =>
    have hb : b.toNat < 256 := b.toNat_lt
    rw [List.length_cons, encode, decode, Nat.add_mul_div_left _ _ (by decide),
      Nat.div_eq_of_lt hb, Nat.zero_add, ih]
    congr 1
    apply UInt8.toNat_inj.mp
    simp

/-- Which bytes a number is read from. -/
theorem decode_eq_iff {bs : Bytes} {n : Nat} :
    decode bs = n ↔ bs = encode bs.length n ∧ n < capacity bs.length := by
  constructor
  · rintro rfl
    exact ⟨(encode_decode bs).symm, decode_lt bs⟩
  · rintro ⟨h, hn⟩
    rw [h, decode_encode, Nat.mod_eq_of_lt hn]

/-- The signed value of the bytes in two's complement. -/
def decodeSigned (bs : Bytes) : Int :=
  Int.bmod (decode bs) (capacity bs.length)

/-- The signed value is a given natural number if the bytes are that number with the top bit
clear. -/
theorem decodeSigned_eq_natCast_iff {bs : Bytes} {n : Nat} :
    decodeSigned bs = n ↔ bs = encode bs.length n ∧ 2 * n < capacity bs.length := by
  have hlt := decode_lt bs
  have hsigned : decodeSigned bs = n ↔ decode bs = n ∧ 2 * n < capacity bs.length := by
    unfold decodeSigned Int.bmod
    have hmod : (decode bs : Int) % (capacity bs.length : Int) = decode bs :=
      Int.emod_eq_of_lt (by omega) (by omega)
    rw [hmod]
    dsimp only
    split <;> omega
  rw [hsigned, decode_eq_iff]
  constructor
  · rintro ⟨⟨h, -⟩, hn⟩
    exact ⟨h, hn⟩
  · rintro ⟨h, hn⟩
    exact ⟨⟨h, by omega⟩, hn⟩

end SaslClient.LittleEndian
