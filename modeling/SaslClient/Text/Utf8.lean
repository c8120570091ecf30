import SaslClient.Bytes.Basic

/-!
# UTF-8

Text and its bytes.

Main results:

* `decode_eq_some_iff`: reading accepts exactly what writing produces.
* `zero_mem_encode_iff`: a zero byte stands for the character NUL and for nothing else.
-/

namespace SaslClient.Utf8

/-- The bytes of a text. -/
def encode (s : String) : Bytes :=
  s.toByteArray.data.toList

/-- The text with these bytes, if they are well-formed. -/
def decode (bs : Bytes) : Option String :=
  String.fromUTF8? ⟨bs.toArray⟩

theorem decode_encode (s : String) : decode (encode s) = some s := by
  have h : ByteArray.IsValidUTF8 s.toByteArray := s.isValidUTF8
  simp [decode, encode, String.fromUTF8?, h, String.fromUTF8]

theorem encode_of_decode {bs : Bytes} {s : String} (h : decode bs = some s) : encode s = bs := by
  unfold decode String.fromUTF8? at h
  split at h
  · cases h
    rfl
  · cases h

theorem decode_eq_some_iff {bs : Bytes} {s : String} : decode bs = some s ↔ encode s = bs :=
  ⟨encode_of_decode, fun h => h ▸ decode_encode s⟩

theorem encode_injective {s t : String} (h : encode s = encode t) : s = t :=
  Option.some.inj (decode_encode s ▸ decode_encode t ▸ congrArg decode h)

@[simp] theorem encode_append (s t : String) : encode (s ++ t) = encode s ++ encode t := by
  simp [encode]

@[simp] theorem length_encode (s : String) : (encode s).length = s.utf8ByteSize := rfl

theorem encode_eq_flatMap (s : String) : encode s = s.toList.flatMap String.utf8EncodeChar := by
  rw [encode, ← String.utf8Encode_toList, List.utf8Encode, List.data_toByteArray]

/-- Only the character NUL has a zero byte: the bytes of a longer form have their top bit set. -/
theorem zero_mem_utf8EncodeChar_iff (c : Char) :
    (0 : UInt8) ∈ String.utf8EncodeChar c ↔ c = '\x00' := by
  have hzero (n : Nat) : 0 = UInt8.ofNat n ↔ n % 256 = 0 := by
    rw [eq_comm, ← UInt8.toNat_inj, UInt8.toNat_ofNat']
    simp
  have hnul : c = '\x00' ↔ c.val.toNat = 0 := Char.toNat_inj.symm
  fun_cases String.utf8EncodeChar c <;>
    simp only [List.mem_cons, List.not_mem_nil, or_false, hzero, hnul] <;> omega

theorem zero_mem_encode_iff (s : String) : (0 : UInt8) ∈ encode s ↔ '\x00' ∈ s.toList := by
  simp [encode_eq_flatMap, List.mem_flatMap, zero_mem_utf8EncodeChar_iff]

end SaslClient.Utf8
