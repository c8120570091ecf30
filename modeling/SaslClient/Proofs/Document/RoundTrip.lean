import SaslClient.Proofs.Document.Decode

/-!
# Writing and reading back

A document comes back from its binary form exactly if no key holds NUL, the levels suffice and a
length prefix can hold the length of the whole. Of these, only the levels are told apart by the
error. Conversely, whatever is read comes back from its own written form, which is as long as what
was read and differs from it at the loose places of the layout only.

Main results:

* `Document.decode_encode_iff`: the documents that come back, and what becomes of one that is too
  deep.
* `Document.reencode_normalizes`: writing what was read normalizes the input, byte by byte.
-/

namespace SaslClient

/-! ## Documents that are too deep -/

/-- Reading the value fails for its depth when there are not enough levels for it. -/
def Value.RefusedBelow (v : Value) : Prop :=
  ∀ {levels : Nat} {key : String} {front rest : Bytes}, Fits v.layout front →
    front.length < 2 ^ 31 → v.NulFree → levels < v.depth →
      readValue (readDocument levels) v.type.byte key (front ++ rest) = .error (.tooDeep maxDepth)

/-- Reading the fields fails for their depth when there are not enough levels for them. -/
def Document.FieldsRefusedBelow (d : Document) : Prop :=
  ∀ {levels rounds : Nat} {body : Bytes}, Fits d.fieldsLayout body → body.length ≤ rounds →
    body.length < 2 ^ 31 → d.NulFree → levels < d.depth →
      readFields (readDocument levels) rounds body = .error (.tooDeep maxDepth)

theorem readDocument_of_fieldsRefusedBelow {d : Document} (hfields : d.FieldsRefusedBelow)
    {levels : Nat} {front rest : Bytes} (hfits : Fits d.layout front)
    (hlt : front.length < 2 ^ 31) (hnul : d.NulFree) (hdepth : levels ≤ d.depth) :
    readDocument levels (front ++ rest) = .error (.tooDeep maxDepth) := by
  cases levels with
  | zero => rfl
  | succ levels =>
    obtain ⟨body, hbody, rfl⟩ := fits_frameLayout_iff.mp hfits
    rw [length_frame] at hlt
    rw [readDocument, Except.bind_eq_error_iff]
    refine Or.inr ⟨(body, rest), readFrame_eq_ok_iff.mpr ⟨hlt, rfl⟩, ?_⟩
    rw [Except.bind_eq_error_iff]
    exact Or.inl (hfields hbody le_rfl (by omega) hnul hdepth)

mutual

theorem Value.refusedBelow : (v : Value) → v.RefusedBelow
  | .document fields, levels, key, front, rest, hfits, hlt, hnul, hdepth => by
    rw [readValue, Value.type, ValueType.ofByte?_byte, Except.bind_eq_error_iff]
    exact Or.inl (readDocument_of_fieldsRefusedBelow fields.fieldsRefusedBelow hfits hlt hnul
      (Nat.le_of_lt_succ hdepth))
  | .text _, _, _, _, _, _, _, _, hdepth | .binary _, _, _, _, _, _, _, _, hdepth
  | .bool _, _, _, _, _, _, _, _, hdepth | .null, _, _, _, _, _, _, _, hdepth
  | .double _, _, _, _, _, _, _, _, hdepth | .int32 _, _, _, _, _, _, _, _, hdepth
  | .int64 _, _, _, _, _, _, _, _, hdepth => absurd hdepth (Nat.not_lt_zero _)

theorem Document.fieldsRefusedBelow : (d : Document) → d.FieldsRefusedBelow
  | .empty, _, _, _, _, _, _, _, hdepth => absurd hdepth (Nat.not_lt_zero _)
  | .field key value rest, levels, rounds, body, hfits, hrounds, hlt, hnul, hdepth => by
    have hrest : rest.FieldsRefusedBelow := rest.fieldsRefusedBelow
    have hvalue : value.RefusedBelow := value.refusedBelow
    obtain ⟨front, back, hfront, hback, rfl⟩ := fits_field_iff.mp hfits
    simp only [List.length_cons, List.length_append] at hrounds hlt
    obtain ⟨hkey, hnul, hnul'⟩ := hnul
    match rounds with
    | 0 => omega
    | rounds + 1 =>
      rw [readFields, Except.bind_eq_error_iff]
      refine Or.inr ⟨(key, front ++ back), readKey_eq_ok_iff.mpr ⟨hkey, rfl⟩, ?_⟩
      rw [Except.bind_eq_error_iff]
      -- the first value that is too deep stops the reader, and those before it are read
      by_cases hshallow : value.depth ≤ levels
      · have hread : readValue (readDocument levels) value.type.byte key (front ++ back) =
            .ok (value, back) := by
          refine (value.readBack ?_).mpr ⟨⟨front, hfront, rfl⟩, hnul, hshallow⟩
          rw [List.length_append]
          omega
        refine Or.inr ⟨(value, back), hread, ?_⟩
        rw [Except.bind_eq_error_iff]
        refine Or.inl (hrest hback (by omega) (by omega) hnul' ?_)
        rw [Document.depth] at hdepth
        omega
      · exact Or.inl (hvalue hfront (by omega) hnul (by omega))

end

namespace Document

/-- Bytes that would be read as a document, were it not too deep. -/
theorem decode_of_too_deep {d : Document} {bs : Bytes} (hfits : Fits d.layout bs)
    (hlt : bs.length < 2 ^ 31) (hnul : d.NulFree) (hdepth : maxDepth < d.depth) :
    decode bs = .error (.tooDeep maxDepth) := by
  have hread : readDocument (maxDepth + 1) (bs ++ []) = .error (.tooDeep maxDepth) :=
    readDocument_of_fieldsRefusedBelow d.fieldsRefusedBelow hfits hlt hnul
      (Nat.succ_le_of_lt hdepth)
  rw [List.append_nil] at hread
  rw [decode, Except.bind_eq_error_iff]
  exact Or.inl hread

/-! ## The round trip -/

/-- **The documents that come back.** A document is decoded from its own binary form if and only if
no key at any level holds NUL, at most `maxDepth` levels are embedded below it, and the form is no
longer than a signed 32-bit length can say. If nothing but the depth stands against it, the error
names the depth. -/
theorem decode_encode_iff (d : Document) :
    (decode d.encode = .ok d ↔
      d.NulFree ∧ d.depth ≤ maxDepth ∧ d.encode.length ≤ 2 ^ 31 - 1) ∧
    (d.NulFree ∧ ¬ d.depth ≤ maxDepth ∧ d.encode.length ≤ 2 ^ 31 - 1 →
      decode d.encode = .error (.tooDeep maxDepth)) := by
  constructor
  · rw [decode_eq_ok_iff]
    constructor
    · rintro ⟨-, hlt, hnul, hdepth⟩
      exact ⟨hnul, hdepth, by omega⟩
    · rintro ⟨hnul, hdepth, hle⟩
      exact ⟨d.fits_encode, by omega, hnul, hdepth⟩
  · rintro ⟨hnul, hdepth, hle⟩
    exact decode_of_too_deep d.fits_encode (by omega) hnul (by omega)

/-- A document with `n` documents inside each other. -/
def nested : Nat → Document
  | 0 => .empty
  | n + 1 => .field "a" (.document (nested n)) .empty

theorem depth_nested (n : Nat) : (nested n).depth = n := by
  induction n with
  | zero => rfl
  | succ n ih => simp [nested, depth, Value.depth, ih]

theorem nulFree_nested (n : Nat) : (nested n).NulFree := by
  induction n with
  | zero => trivial
  | succ n ih => exact ⟨by decide, ih, trivial⟩

theorem length_encode_nested (n : Nat) : (nested n).encode.length = 8 * n + 5 := by
  induction n with
  | zero => rfl
  | succ n ih =>
    have hkey : "a".utf8ByteSize = 1 := by decide
    rw [encode, length_frame] at ih ⊢
    rw [nested, encodeFields]
    simp [Value.encode, encodeFields]
    omega

/-- The last level that is read, and the first that is not. -/
theorem decode_encode_nested :
    decode (nested maxDepth).encode = .ok (nested maxDepth) ∧
      decode (nested (maxDepth + 1)).encode = .error (.tooDeep maxDepth) := by
  have hbound : 8 * (maxDepth + 1) + 5 ≤ 2 ^ 31 - 1 := by decide
  constructor
  · refine (decode_encode_iff (nested maxDepth)).1.mpr ⟨nulFree_nested _, (depth_nested _).le, ?_⟩
    rw [length_encode_nested]
    omega
  · refine (decode_encode_iff (nested (maxDepth + 1))).2 ⟨nulFree_nested _, ?_, ?_⟩
    · rw [depth_nested]
      exact Nat.not_succ_le_self maxDepth
    · rw [length_encode_nested]
      exact hbound

/-- **Writing what was read.** The document that was read has at most `maxDepth` levels and no key
with NUL, its binary form is as long as what was read and is read as the same document. The two
differ at most at the byte behind a text, at the subtype of a binary value and at the flag of a true
boolean, which is not zero. -/
theorem reencode_normalizes {bs : Bytes} {d : Document} (h : decode bs = .ok d) :
    d.depth ≤ maxDepth ∧ d.NulFree ∧ d.encode.length = bs.length ∧ decode d.encode = .ok d ∧
      d.layout.map Slot.byte = d.encode ∧
      ∀ (i : Nat) (b e : UInt8), bs[i]? = some b → d.encode[i]? = some e → b ≠ e →
        d.layout[i]? = some .textEnd ∨ d.layout[i]? = some .subtype ∨
          d.layout[i]? = some .truth ∧ b ≠ 0 := by
  obtain ⟨hfits, hlt, hnul, hdepth⟩ := decode_eq_ok_iff.mp h
  have hlength : d.encode.length = bs.length := (length_of_fits hfits).symm
  refine ⟨hdepth, hnul, hlength, ?_, d.byte_layout, fun i b e => loose_of_fits hfits⟩
  exact decode_eq_ok_iff.mpr ⟨d.fits_encode, hlength ▸ hlt, hnul, hdepth⟩

/-- A document with a byte 7 behind the text `x`, the subtype 9 and the flag 255. -/
def looseBytes : Bytes :=
  [27, 0, 0, 0, 2, 115, 0, 2, 0, 0, 0, 120, 7, 5, 98, 0, 1, 0, 0, 0, 9, 170, 8, 116, 0, 255, 0]

/-- What the loose bytes are read as. -/
def looseDocument : Document :=
  ofEntries [("s", .text "x"), ("b", .binary [170]), ("t", .bool true)]

theorem reencode_loose :
    looseDocument.encode ≠ looseBytes ∧ looseDocument.encode.length = looseBytes.length ∧
      decode looseDocument.encode = .ok looseDocument := by
  have hdecode : decode looseBytes = .ok looseDocument := by decide +kernel
  obtain ⟨-, -, hlength, hagain, -⟩ := reencode_normalizes hdecode
  exact ⟨by decide +kernel, hlength, hagain⟩

end Document

end SaslClient
