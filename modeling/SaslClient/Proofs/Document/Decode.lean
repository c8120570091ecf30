import Mathlib.Data.List.TakeWhile
import SaslClient.Document.Decode
import SaslClient.Except
import SaslClient.Proofs.Document.Layout

/-!
# Which bytes are read as a document

Each reader accepts exactly the bytes that fit the layout of what it gives, and leaves those behind
them. The bound on a length prefix and the levels of nesting are the only other conditions: a length
prefix holds numbers below `2 ^ 31`, and every document inside spends a level.

Main results:

* `readFrame_eq_ok_iff`, `readKey_eq_ok_iff`, `readText_eq_ok_iff`, `readBinary_eq_ok_iff`: what the
  parts of a document are read from.
* `readDocument_eq_ok_iff`: what a document is read from, within the levels that are left.
* `Document.decode_eq_ok_iff`: which bytes are one document and nothing else.
-/

namespace SaslClient

/-! ## Lengths, keys and frames -/

theorem readBytes_eq_ok_iff {n : Nat} {bs raw rest : Bytes} :
    readBytes n bs = .ok (raw, rest) ↔ raw.length = n ∧ bs = raw ++ rest := by
  unfold readBytes
  constructor
  · intro h
    split at h
    next hle =>
      cases h
      exact ⟨List.length_take_of_le hle, (List.take_append_drop n bs).symm⟩
    next => cases h
  · rintro ⟨rfl, rfl⟩
    simp

/-- Four bytes stand for a natural number if they are that number and it is below `2 ^ 31`. -/
theorem decodeSigned_eq_iff {digits : Bytes} (h : digits.length = 4) {n : Nat} :
    LittleEndian.decodeSigned digits = n ↔ digits = LittleEndian.encode 4 n ∧ n < 2 ^ 31 := by
  have hcapacity : LittleEndian.capacity 4 = 2 * 2 ^ 31 := rfl
  rw [LittleEndian.decodeSigned_eq_natCast_iff, h, hcapacity, Nat.mul_lt_mul_left (by decide)]

theorem readLength_eq_ok_iff {bs rest : Bytes} {n : Nat} :
    readLength bs = .ok (n, rest) ↔ n < 2 ^ 31 ∧ bs = LittleEndian.encode 4 n ++ rest := by
  unfold readLength
  simp only [Except.bind_eq_ok_iff, Prod.exists, readBytes_eq_ok_iff]
  constructor
  · rintro ⟨digits, rest', ⟨hdigits, rfl⟩, h⟩
    split at h
    next => cases h
    next hdeclared =>
      obtain ⟨n', hn'⟩ := Int.eq_ofNat_of_zero_le (Int.not_lt.mp hdeclared)
      rw [hn'] at h
      cases h
      obtain ⟨rfl, hlt⟩ := (decodeSigned_eq_iff hdigits).mp hn'
      exact ⟨hlt, rfl⟩
  · rintro ⟨hlt, rfl⟩
    have hdigits : (LittleEndian.encode 4 n).length = 4 := LittleEndian.length_encode 4 n
    refine ⟨_, rest, ⟨hdigits, rfl⟩, ?_⟩
    rw [(decodeSigned_eq_iff hdigits).mpr ⟨rfl, hlt⟩, if_neg (by omega), Int.toNat_natCast]

theorem readKey_eq_ok_iff {bs rest : Bytes} {key : String} :
    readKey bs = .ok (key, rest) ↔
      '\x00' ∉ key.toList ∧ bs = Utf8.encode key ++ 0 :: rest := by
  rw [← Utf8.zero_mem_encode_iff]
  unfold readKey
  constructor
  · intro h
    have hsplit := List.takeWhile_append_dropWhile (p := (· != 0)) (l := bs)
    split at h
    next => cases h
    next last rest' hdrop =>
      have hlast : last = 0 := by
        have := List.head_dropWhile_not (· != 0) (l := bs) (by simp [hdrop])
        simpa [hdrop] using this
      split at h
      next key' hkey =>
        cases h
        rw [Utf8.decode_eq_some_iff] at hkey
        rw [hdrop, hlast, ← hkey] at hsplit
        refine ⟨?_, hsplit.symm⟩
        intro hmem
        rw [hkey] at hmem
        simpa using List.mem_takeWhile_imp hmem
      next => cases h
  · rintro ⟨hnul, rfl⟩
    have hne : ∀ b ∈ Utf8.encode key, (b != 0) = true := by
      intro b hb
      rw [bne_iff_ne]
      rintro rfl
      exact hnul hb
    rw [List.dropWhile_append_of_pos hne, List.takeWhile_append_of_pos hne]
    simp [Utf8.decode_encode]

theorem readText_eq_ok_iff {bs rest : Bytes} {s : String} :
    readText bs = .ok (s, rest) ↔
      (Utf8.encode s).length + 1 < 2 ^ 31 ∧
        ∃ front, Fits (Value.text s).layout front ∧ bs = front ++ rest := by
  unfold readText
  simp only [Except.bind_eq_ok_iff, Prod.exists, readLength_eq_ok_iff, fits_text_iff]
  constructor
  · rintro ⟨length, back, ⟨hlength, rfl⟩, h⟩
    split at h
    next => cases h
    next hpos =>
      simp only [Except.bind_eq_ok_iff, Prod.exists, readBytes_eq_ok_iff] at h
      obtain ⟨raw, rest', ⟨rfl, rfl⟩, h⟩ := h
      obtain ⟨text, last, rfl⟩ :=
        (List.eq_nil_or_concat' raw).resolve_left (List.length_pos_iff.mp (by omega))
      rw [List.length_append, List.length_singleton] at h hlength ⊢
      rw [Nat.add_sub_cancel, List.take_left] at h
      split at h
      next s' hs =>
        cases h
        rw [Utf8.decode_eq_some_iff] at hs
        subst hs
        exact ⟨hlength, _, ⟨last, rfl⟩, by simp⟩
      next => cases h
  · rintro ⟨hlt, front, ⟨last, rfl⟩, rfl⟩
    refine ⟨_, Utf8.encode s ++ [last] ++ rest, ⟨hlt, by simp⟩, ?_⟩
    rw [if_neg (Nat.succ_ne_zero _)]
    simp only [Except.bind_eq_ok_iff, Prod.exists, readBytes_eq_ok_iff]
    refine ⟨Utf8.encode s ++ [last], rest, ⟨by simp, rfl⟩, ?_⟩
    rw [Nat.add_sub_cancel, List.take_left, Utf8.decode_encode]

theorem readBinary_eq_ok_iff {bs rest bytes : Bytes} :
    readBinary bs = .ok (bytes, rest) ↔
      bytes.length < 2 ^ 31 ∧
        ∃ front, Fits (Value.binary bytes).layout front ∧ bs = front ++ rest := by
  unfold readBinary
  simp only [Except.bind_eq_ok_iff, Prod.exists, readLength_eq_ok_iff, readBytes_eq_ok_iff,
    fits_binary_iff]
  constructor
  · rintro ⟨length, back, ⟨hlength, rfl⟩, raw, rest', ⟨hraw, rfl⟩, h⟩
    cases h
    obtain ⟨subtype, bytes, rfl⟩ := List.exists_cons_of_length_eq_add_one hraw
    obtain rfl : bytes.length = length := Nat.succ.inj hraw
    exact ⟨hlength, _, ⟨subtype, rfl⟩, by simp⟩
  · rintro ⟨hlt, front, ⟨subtype, rfl⟩, rfl⟩
    exact ⟨_, subtype :: bytes ++ rest, ⟨hlt, by simp⟩, subtype :: bytes, rest, ⟨rfl, rfl⟩, rfl⟩

/-- A frame is read back as the fields in it; nothing in front of the rest is skipped. -/
theorem readFrame_eq_ok_iff {bs body rest : Bytes} :
    readFrame bs = .ok (body, rest) ↔ body.length + 5 < 2 ^ 31 ∧ bs = frame body ++ rest := by
  unfold readFrame frame
  simp only [Except.bind_eq_ok_iff, Prod.exists, readBytes_eq_ok_iff]
  constructor
  · rintro ⟨digits, back, ⟨hdigits, rfl⟩, h⟩
    split at h
    next => cases h
    next hdeclared =>
      obtain ⟨n, hn⟩ := Int.eq_ofNat_of_zero_le
        (Int.le_trans (Int.natCast_nonneg minLength) (Int.not_lt.mp hdeclared))
      have hmin : 5 ≤ n := by
        rw [hn] at hdeclared
        exact Int.ofNat_le.mp (Int.not_lt.mp hdeclared)
      obtain ⟨rfl, hlt⟩ := (decodeSigned_eq_iff hdigits).mp hn
      rw [hn, Int.toNat_natCast] at h
      simp only [Except.bind_eq_ok_iff, Prod.exists, readBytes_eq_ok_iff] at h
      obtain ⟨raw, rest', ⟨hraw, rfl⟩, h⟩ := h
      -- behind the length stand the fields and, as the last byte, the closing zero
      split at h
      next hlast =>
        cases h
        obtain ⟨fields, rfl⟩ := List.getLast?_eq_some_iff.mp hlast
        rw [List.dropLast_concat]
        rw [List.length_append, List.length_singleton] at hraw
        obtain rfl : n = fields.length + 5 := by omega
        exact ⟨hlt, by simp⟩
      next => cases h
  · rintro ⟨hlt, rfl⟩
    have hdigits : (LittleEndian.encode 4 (body.length + 5)).length = 4 :=
      LittleEndian.length_encode 4 _
    refine ⟨_, body ++ [0] ++ rest, ⟨hdigits, by simp⟩, ?_⟩
    have hmin : ¬ ((body.length + 5 : Nat) : Int) < minLength := by
      unfold minLength
      omega
    rw [(decodeSigned_eq_iff hdigits).mpr ⟨rfl, hlt⟩, if_neg hmin, Int.toNat_natCast]
    simp only [Except.bind_eq_ok_iff, Prod.exists, readBytes_eq_ok_iff]
    refine ⟨body ++ [0], rest, ⟨by simp, rfl⟩, ?_⟩
    simp

/-! ## Values that hold no document -/

theorem capacity_eq_two_pow (width : Nat) : LittleEndian.capacity width = 2 ^ (8 * width) := by
  induction width with
  | zero => rfl
  | succ width ih => rw [LittleEndian.capacity, ih, Nat.mul_succ, Nat.pow_add, Nat.mul_comm]

/-- A word read from bytes is the one that they are written for. -/
theorem ofNat_decode_eq_iff {raw : Bytes} {k : Nat} (h : raw.length = k) {w : BitVec (8 * k)} :
    BitVec.ofNat (8 * k) (LittleEndian.decode raw) = w ↔ raw = LittleEndian.encode k w.toNat := by
  have hcapacity : LittleEndian.capacity raw.length = 2 ^ (8 * k) := h ▸ capacity_eq_two_pow _
  have hraw := hcapacity ▸ LittleEndian.decode_lt raw
  rw [← BitVec.toNat_inj, BitVec.toNat_ofNat, Nat.mod_eq_of_lt hraw, LittleEndian.decode_eq_iff,
    hcapacity, h]
  exact and_iff_left w.isLt

theorem uint64_decode_eq_iff {raw : Bytes} (h : raw.length = 8) {w : UInt64} :
    UInt64.ofNat (LittleEndian.decode raw) = w ↔ raw = LittleEndian.encode 8 w.toNat :=
  UInt64.toBitVec_inj.symm.trans (ofNat_decode_eq_iff h)

theorem uint32_decode_eq_iff {raw : Bytes} (h : raw.length = 4) {w : UInt32} :
    UInt32.ofNat (LittleEndian.decode raw) = w ↔ raw = LittleEndian.encode 4 w.toNat :=
  UInt32.toBitVec_inj.symm.trans (ofNat_decode_eq_iff h)

/-- A value made of a fixed number of bytes is read from the only bytes that it is made of. -/
theorem readFixed_eq_ok_iff (f : Bytes → Value) {v : Value} {n : Nat} {digits bs rest : Bytes}
    (hdigits : digits.length = n) (hf : ∀ raw, raw.length = n → (f raw = v ↔ raw = digits)) :
    (do let p ← readBytes n bs; Except.ok (f p.1, p.2)) = .ok (v, rest) ↔
      bs = digits ++ rest := by
  simp only [Except.bind_eq_ok_iff, Prod.exists, readBytes_eq_ok_iff]
  constructor
  · rintro ⟨raw, rest', ⟨hraw, rfl⟩, h⟩
    cases h
    rw [(hf raw hraw).mp rfl]
  · rintro rfl
    refine ⟨digits, rest, ⟨hdigits, rfl⟩, ?_⟩
    rw [(hf digits hdigits).mpr rfl]

/-- The value holds no document. -/
def Value.IsFlat : Value → Prop
  | .document _ => False
  | _ => True

section

variable {embedded : Bytes → Except DocumentError (Document × Bytes)}

/-- A value is only read behind the type byte that is written in front of it. -/
theorem type_of_readValue {type : UInt8} {key : String} {bs rest : Bytes} {v : Value}
    (h : readValue embedded type key bs = .ok (v, rest)) : type = v.type.byte := by
  unfold readValue at h
  split at h
  case h_6 htype =>
    cases h
    exact (ValueType.byte_of_ofByte? htype).symm
  case h_9 => cases h
  all_goals
    next htype =>
    obtain ⟨_, -, h⟩ := Except.bind_eq_ok_iff.mp h
    cases h
    exact (ValueType.byte_of_ofByte? htype).symm

/-- A value without a document in it is read from what fits its layout. -/
theorem readValue_eq_ok_iff_of_isFlat {v : Value} (hflat : v.IsFlat) {key : String}
    {bs rest : Bytes} (hbs : bs.length < 2 ^ 31) :
    readValue embedded v.type.byte key bs = .ok (v, rest) ↔
      ∃ front, Fits v.layout front ∧ bs = front ++ rest := by
  rw [readValue, ValueType.ofByte?_byte]
  cases v with
  | document fields => exact hflat.elim
  | text s =>
    simp only [Value.type, Except.bind_eq_ok_iff, Prod.exists, Except.ok.injEq, Prod.mk.injEq,
      Value.text.injEq, exists_eq_right_right, exists_eq_right, readText_eq_ok_iff]
    apply and_iff_right_of_imp
    rintro ⟨front, hfits, rfl⟩
    obtain ⟨last, rfl⟩ := fits_text_iff.mp hfits
    simp only [List.length_append, List.length_singleton] at hbs
    omega
  | binary bytes =>
    simp only [Value.type, Except.bind_eq_ok_iff, Prod.exists, Except.ok.injEq, Prod.mk.injEq,
      Value.binary.injEq, exists_eq_right_right, exists_eq_right, readBinary_eq_ok_iff]
    apply and_iff_right_of_imp
    rintro ⟨front, hfits, rfl⟩
    obtain ⟨subtype, rfl⟩ := fits_binary_iff.mp hfits
    simp only [List.length_append, List.length_cons] at hbs
    omega
  | bool b =>
    simp only [Value.type, Except.bind_eq_ok_iff, Prod.exists, Except.ok.injEq, Prod.mk.injEq,
      Value.bool.injEq, readBytes_eq_ok_iff, fits_bool_iff]
    constructor
    · rintro ⟨raw, _, ⟨hraw, rfl⟩, rfl, rfl⟩
      obtain ⟨x, rfl⟩ := List.length_eq_one_iff.mp hraw
      exact ⟨[x], ⟨x, rfl, Bool.eq_iff_iff.mpr (by simp)⟩, rfl⟩
    · rintro ⟨front, ⟨x, rfl, rfl⟩, rfl⟩
      exact ⟨[x], rest, ⟨rfl, rfl⟩, Bool.eq_iff_iff.mpr (by simp), rfl⟩
  | null =>
    simp [Value.type, Value.layout, Value.encode]
  | double d =>
    simp only [Value.layout, Value.encode, fits_exactly_iff, exists_eq_left]
    refine readFixed_eq_ok_iff (fun raw => .double ⟨UInt64.ofNat (LittleEndian.decode raw)⟩)
      (LittleEndian.length_encode 8 _) fun raw hraw => ?_
    obtain ⟨bits⟩ := d
    rw [← uint64_decode_eq_iff hraw, Value.double.injEq, Double.mk.injEq]
  | int32 n =>
    simp only [Value.layout, Value.encode, fits_exactly_iff, exists_eq_left]
    refine readFixed_eq_ok_iff (fun raw => .int32 (UInt32.ofNat (LittleEndian.decode raw)).toInt32)
      (LittleEndian.length_encode 4 _) fun raw hraw => ?_
    rw [← uint32_decode_eq_iff hraw, Value.int32.injEq]
    exact ⟨fun h => h ▸ rfl, fun h => h ▸ rfl⟩
  | int64 n =>
    simp only [Value.layout, Value.encode, fits_exactly_iff, exists_eq_left]
    refine readFixed_eq_ok_iff (fun raw => .int64 (UInt64.ofNat (LittleEndian.decode raw)).toInt64)
      (LittleEndian.length_encode 8 _) fun raw hraw => ?_
    rw [← uint64_decode_eq_iff hraw, Value.int64.injEq]
    exact ⟨fun h => h ▸ rfl, fun h => h ▸ rfl⟩

/-! ## Fields and documents -/

theorem readFields_nil (rounds : Nat) : readFields embedded rounds [] = .ok .empty := by
  cases rounds <;> rfl

theorem readFields_cons_eq_ok_iff {rounds : Nat} {type : UInt8} {bs : Bytes} {d : Document} :
    readFields embedded (rounds + 1) (type :: bs) = .ok d ↔
      ∃ key value fields back rest, '\x00' ∉ key.toList ∧ bs = Utf8.encode key ++ 0 :: back ∧
        readValue embedded type key back = .ok (value, rest) ∧
        readFields embedded rounds rest = .ok fields ∧ d = .field key value fields := by
  rw [readFields]
  simp only [Except.bind_eq_ok_iff, Prod.exists, readKey_eq_ok_iff]
  constructor
  · rintro ⟨key, back, ⟨hkey, rfl⟩, value, rest, hvalue, fields, hfields, h⟩
    cases h
    exact ⟨key, value, fields, back, rest, hkey, rfl, hvalue, hfields, rfl⟩
  · rintro ⟨key, value, fields, back, rest, hkey, rfl, hvalue, hfields, rfl⟩
    exact ⟨key, back, ⟨hkey, rfl⟩, value, rest, hvalue, fields, hfields, rfl⟩

end

theorem readDocument_succ_eq_ok_iff {levels : Nat} {bs rest : Bytes} {d : Document} :
    readDocument (levels + 1) bs = .ok (d, rest) ↔
      ∃ body, body.length + 5 < 2 ^ 31 ∧ bs = frame body ++ rest ∧
        readFields (readDocument levels) body.length body = .ok d := by
  rw [readDocument]
  simp only [Except.bind_eq_ok_iff, Prod.exists, readFrame_eq_ok_iff]
  constructor
  · rintro ⟨body, rest', ⟨hlt, rfl⟩, fields, hfields, h⟩
    cases h
    exact ⟨body, hlt, rfl, hfields⟩
  · rintro ⟨body, hlt, rfl, hfields⟩
    exact ⟨body, rest, ⟨hlt, rfl⟩, d, hfields, rfl⟩

/-- Bytes in front of a rest that a reader takes for a document, within the levels it may use. -/
structure Document.ReadFrom (d : Document) (levels : Nat) (bs rest : Bytes) : Prop where
  front : ∃ front, Fits d.layout front ∧ bs = front ++ rest ∧ front.length < 2 ^ 31
  nulFree : d.NulFree
  depth_lt : d.depth < levels

/-- The value is read from exactly what fits its layout, unless it holds too many levels. -/
def Value.ReadBack (v : Value) : Prop :=
  ∀ {levels : Nat} {key : String} {bs rest : Bytes}, bs.length < 2 ^ 31 →
    (readValue (readDocument levels) v.type.byte key bs = .ok (v, rest) ↔
      (∃ front, Fits v.layout front ∧ bs = front ++ rest) ∧ v.NulFree ∧ v.depth ≤ levels)

/-- The fields are read from exactly what fits their layout, unless they hold too many levels. -/
def Document.FieldsReadBack (d : Document) : Prop :=
  ∀ {levels rounds : Nat} {body : Bytes}, body.length ≤ rounds → body.length < 2 ^ 31 →
    (readFields (readDocument levels) rounds body = .ok d ↔
      Fits d.fieldsLayout body ∧ d.NulFree ∧ d.depth ≤ levels)

theorem readDocument_eq_ok_iff_of_fields {d : Document} (hfields : d.FieldsReadBack)
    {levels : Nat} {bs rest : Bytes} :
    readDocument levels bs = .ok (d, rest) ↔ d.ReadFrom levels bs rest := by
  cases levels with
  | zero =>
    constructor
    · intro h
      cases h
    · intro h
      exact absurd h.depth_lt (Nat.not_lt_zero _)
  | succ levels =>
    rw [readDocument_succ_eq_ok_iff]
    constructor
    · rintro ⟨body, hlt, rfl, hread⟩
      obtain ⟨hfits, hnul, hdepth⟩ := (hfields le_rfl (by omega)).mp hread
      refine ⟨⟨frame body, fits_frameLayout_iff.mpr ⟨body, hfits, rfl⟩, rfl, ?_⟩, hnul, by omega⟩
      rwa [length_frame]
    · rintro ⟨⟨front, hfits, rfl, hlt⟩, hnul, hdepth⟩
      obtain ⟨body, hbody, rfl⟩ := fits_frameLayout_iff.mp hfits
      rw [length_frame] at hlt
      exact ⟨body, hlt, rfl, (hfields le_rfl (by omega)).mpr ⟨hbody, hnul, by omega⟩⟩

mutual

theorem Value.readBack : (v : Value) → v.ReadBack
  | .document fields, levels, key, bs, rest, hbs => by
    rw [readValue, Value.type, ValueType.ofByte?_byte]
    simp only [Except.bind_eq_ok_iff, Prod.exists, Except.ok.injEq, Prod.mk.injEq,
      Value.document.injEq, exists_eq_right_right, exists_eq_right]
    rw [readDocument_eq_ok_iff_of_fields fields.fieldsReadBack]
    constructor
    · rintro ⟨⟨front, hfits, rfl, -⟩, hnul, hdepth⟩
      exact ⟨⟨front, hfits, rfl⟩, hnul, hdepth⟩
    · rintro ⟨⟨front, hfits, rfl⟩, hnul, hdepth⟩
      rw [List.length_append] at hbs
      exact ⟨⟨front, hfits, rfl, by omega⟩, hnul, hdepth⟩
  | .text _, levels, _, _, _, hbs | .binary _, levels, _, _, _, hbs | .bool _, levels, _, _, _, hbs
  | .null, levels, _, _, _, hbs | .double _, levels, _, _, _, hbs | .int32 _, levels, _, _, _, hbs
  | .int64 _, levels, _, _, _, hbs => by
    refine (readValue_eq_ok_iff_of_isFlat ?_ hbs).trans
      (and_iff_left ⟨trivial, Nat.zero_le levels⟩).symm
    trivial

theorem Document.fieldsReadBack : (d : Document) → d.FieldsReadBack
  | .empty, levels, rounds, body, hrounds, hbody => by
    rw [Document.fieldsLayout, fits_nil_iff,
      and_iff_left ⟨trivial, Nat.zero_le levels⟩]
    constructor
    · intro h
      match rounds, body with
      | _, [] => rfl
      | 0, _ :: _ => cases h
      | rounds + 1, type :: bs =>
        obtain ⟨_, _, _, _, _, _, _, _, _, h⟩ := readFields_cons_eq_ok_iff.mp h
        cases h
    · rintro rfl
      exact readFields_nil _
  | .field key value rest, levels, rounds, body, hrounds, hbody => by
    have hvalue : value.ReadBack := value.readBack
    have hrest : rest.FieldsReadBack := rest.fieldsReadBack
    rw [fits_field_iff, Document.depth, Nat.max_le]
    constructor
    · intro h
      match rounds, body with
      | _, [] =>
        rw [readFields_nil] at h
        cases h
      | 0, _ :: _ => cases h
      | rounds + 1, type :: bs =>
        obtain ⟨_, _, _, mid, back, hkey, rfl, hread, hback, heq⟩ := readFields_cons_eq_ok_iff.mp h
        cases heq
        obtain rfl := type_of_readValue hread
        -- type and key take two bytes, so the rounds that are left suffice for the rest
        simp only [List.length_cons, List.length_append] at hrounds hbody
        obtain ⟨⟨front, hfront, rfl⟩, hnul, hdepth⟩ := (hvalue (by omega)).mp hread
        rw [List.length_append] at hrounds hbody
        obtain ⟨hfits, hnul', hdepth'⟩ := (hrest (by omega) (by omega)).mp hback
        exact ⟨⟨front, back, hfront, hfits, rfl⟩, ⟨hkey, hnul, hnul'⟩, hdepth, hdepth'⟩
    · rintro ⟨⟨front, back, hfront, hfits, rfl⟩, ⟨hkey, hnul, hnul'⟩, hdepth, hdepth'⟩
      simp only [List.length_cons, List.length_append] at hrounds hbody
      cases rounds with
      | zero => omega
      | succ rounds =>
        refine readFields_cons_eq_ok_iff.mpr ⟨key, value, rest, front ++ back, back, hkey, rfl,
          (hvalue ?_).mpr ⟨⟨front, hfront, rfl⟩, hnul, hdepth⟩,
          (hrest ?_ ?_).mpr ⟨hfits, hnul', hdepth'⟩, rfl⟩
        · rw [List.length_append]
          omega
        · omega
        · omega

end

theorem readDocument_eq_ok_iff {levels : Nat} {bs rest : Bytes} {d : Document} :
    readDocument levels bs = .ok (d, rest) ↔ d.ReadFrom levels bs rest :=
  readDocument_eq_ok_iff_of_fields d.fieldsReadBack

/-- A document is decoded from exactly what fits its layout, provided that no key holds NUL, that
the levels suffice and that a length prefix can hold the length. -/
theorem Document.decode_eq_ok_iff {bs : Bytes} {d : Document} :
    Document.decode bs = .ok d ↔
      Fits d.layout bs ∧ bs.length < 2 ^ 31 ∧ d.NulFree ∧ d.depth ≤ maxDepth := by
  unfold Document.decode
  simp only [Except.bind_eq_ok_iff, Prod.exists, readDocument_eq_ok_iff]
  constructor
  · rintro ⟨d', rest, ⟨⟨front, hfits, rfl, hlt⟩, hnul, hdepth⟩, h⟩
    split at h
    next hrest =>
      cases h
      rw [List.isEmpty_iff.mp hrest, List.append_nil]
      exact ⟨hfits, hlt, hnul, Nat.le_of_lt_succ hdepth⟩
    next => cases h
  · rintro ⟨hfits, hlt, hnul, hdepth⟩
    have hfront : ∃ front, Fits d.layout front ∧ bs = front ++ [] ∧ front.length < 2 ^ 31 :=
      ⟨bs, hfits, (List.append_nil bs).symm, hlt⟩
    exact ⟨d, [], ⟨hfront, hnul, Nat.lt_succ_of_le hdepth⟩, rfl⟩

end SaslClient
