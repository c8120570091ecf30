import SaslClient.Document.Cursor
import SaslClient.Except
import SaslClient.Proofs.Document.Decode

/-!
# The reader stays in range

The walk over the buffer whose operations may fail is compared, part by part, with the reader that
has no such operations. Each guard of the walk stands in front of the operations that rely on it, so
every part agrees on all bytes; only the search for the end of a key needs a bound on the buffer,
since it adds to an index. The bodies of documents have one: their length was read from 31 bits.

Main results:

* `Walk.agrees_readValue`, `Walk.agrees_readDocument`: the parts of a document.
* `Walk.decode_stays_in_range`: a walk over any buffer ends with a document or a refusal.
-/

namespace SaslClient.Walk

variable {α β : Type}

/-! ## Single operations inside their range -/

@[simp] theorem run_refuse (e : DocumentError) (bs : Bytes) :
    (refuse e : Walk α).run bs = .error (.refused e) := rfl

theorem minus_of_le {a b : Nat} (h : b ≤ a) : minus a b = .ok (a - b) :=
  if_pos h

theorem plus_of_lt {a b : Nat} (h : a + b < wordCapacity) : plus a b = .ok (a + b) :=
  if_pos h

theorem cut_of_le {n : Nat} {bs : Bytes} (h : n ≤ bs.length) :
    cut n bs = .ok (bs.take n, bs.drop n) :=
  if_pos h

/-- A step that does not touch the buffer and succeeds. -/
theorem lift_ok_bind (a : α) (k : α → Walk β) : ((.ok a : Except Halt α) : Walk α) >>= k = k a :=
  rfl

theorem run_take {n : Nat} {bs : Bytes} (h : n ≤ bs.length) :
    (take n).run bs = .ok (bs.take n, bs.drop n) :=
  cut_of_le h

theorem run_takeByte (b : UInt8) (bs : Bytes) : takeByte.run (b :: bs) = .ok (b, bs) := by
  have h : 1 ≤ (b :: bs).length := by simp
  simp only [takeByte, StateT.run_bind, run_take h, Except.ok_bind]
  rfl

theorem run_peek {n : Nat} {bs : Bytes} (h : n ≤ bs.length) :
    (peek n).run bs = .ok (bs.take n, bs) := by
  simp [peek, cut_of_le h]

theorem run_advance {n : Nat} {bs : Bytes} (h : n ≤ bs.length) :
    (advance n).run bs = .ok ((), bs.drop n) := by
  simp [advance, run_take h]

/-- Ensuring never subtracts more than is there. -/
theorem run_ensure (n : Nat) (bs : Bytes) :
    (ensure n).run bs =
      if n ≤ bs.length then .ok ((), bs) else .error (.refused (.truncated (n - bs.length))) := by
  by_cases h : n ≤ bs.length
  · have hle : ¬ bs.length < n := by omega
    simp [ensure, h, hle]
  · have hlt : bs.length < n := by omega
    simp [ensure, h, hlt, minus_of_le (Nat.le_of_lt hlt)]

theorem run_text (raw bs : Bytes) :
    (text raw).run bs =
      match Utf8.decode raw with
      | some s => .ok (s, bs)
      | none => .error (.refused .invalidUtf8) := by
  unfold text
  cases Utf8.decode raw <;> rfl

/-! ## The parts of a document -/

/-- On these bytes, the walk gives what the reader gives. -/
def Agrees (w : Walk α) (read : Bytes → Except DocumentError (α × Bytes)) (bs : Bytes) : Prop :=
  w.run bs = (read bs).mapError Halt.refused

theorem agrees_bind {w : Walk α} {read : Bytes → Except DocumentError (α × Bytes)} {bs : Bytes}
    {k : α → Walk β} {next : α × Bytes → Except DocumentError (β × Bytes)} (hw : Agrees w read bs)
    (hk : ∀ a rest, read bs = .ok (a, rest) →
      (k a).run rest = (next (a, rest)).mapError Halt.refused) :
    (w >>= k).run bs = (read bs >>= next).mapError Halt.refused := by
  rw [StateT.run_bind, hw]
  cases hread : read bs with
  | error e => rfl
  | ok p => exact hk p.1 p.2 hread

/-- Ensuring and taking are reading. -/
theorem agrees_readBytes (n : Nat) (bs : Bytes) :
    Agrees (do ensure n; take n) (SaslClient.readBytes n) bs := by
  unfold Agrees readBytes
  rw [StateT.run_bind, run_ensure]
  by_cases h : n ≤ bs.length
  · simp [h, run_take h]
  · simp [h]

theorem agrees_readLength (bs : Bytes) : Agrees readLength SaslClient.readLength bs := by
  unfold Agrees readLength SaslClient.readLength
  rw [← bind_assoc]
  refine agrees_bind (agrees_readBytes 4 bs) ?_
  intro digits rest _
  dsimp only
  split <;> simp

theorem agrees_readKey {bs : Bytes} (h : bs.length < 2 ^ 31) :
    Agrees readKey SaslClient.readKey bs := by
  unfold Agrees readKey SaslClient.readKey
  have hnot : (fun b : UInt8 => !(b != 0)) = (· == 0) := by
    funext b
    simp [bne]
  rw [List.takeWhile_eq_take_findIdx_not, List.dropWhile_eq_drop_findIdx_not, hnot, StateT.run_bind,
    StateT.run_get, Except.pure_eq_ok, Except.ok_bind]
  cases hstop : bs.findIdx? (· == 0) with
  | none =>
    rw [List.findIdx?_eq_none_iff, ← List.findIdx_eq_length] at hstop
    simp [hstop]
  | some stop =>
    obtain ⟨hlt, rfl⟩ := List.findIdx?_eq_some_iff_findIdx_eq.mp hstop
    rw [List.drop_eq_getElem_cons hlt]
    -- the only sum whose bound does not come from a length prefix
    have hplus : plus (bs.findIdx (· == 0)) 1 = .ok (bs.findIdx (· == 0) + 1) :=
      plus_of_lt (by unfold wordCapacity UInt64.size; omega)
    simp only [StateT.run_bind, run_peek (Nat.le_of_lt hlt), Except.ok_bind, run_text]
    cases Utf8.decode (bs.take (bs.findIdx (· == 0))) with
    | none => rfl
    | some key => simp [hplus, run_advance hlt]

theorem agrees_readText (bs : Bytes) : Agrees readText SaslClient.readText bs := by
  unfold Agrees readText SaslClient.readText
  refine agrees_bind (agrees_readLength bs) ?_
  intro length rest _
  dsimp only
  by_cases hzero : length = 0
  · simp [hzero]
  · have hminus : minus length 1 = .ok (length - 1) := minus_of_le (by omega)
    by_cases hle : length ≤ rest.length
    · have hpeek : (peek (length - 1)).run rest = .ok (rest.take (length - 1), rest) :=
        run_peek (by omega)
      have htake : (rest.take length).take (length - 1) = rest.take (length - 1) := by
        rw [List.take_take, Nat.min_eq_left (Nat.sub_le length 1)]
      cases hdecode : Utf8.decode (rest.take (length - 1)) with
      | none => simp [hzero, run_ensure, hle, readBytes, hminus, hpeek, run_text, htake, hdecode]
      | some s =>
        simp [hzero, run_ensure, hle, readBytes, hminus, hpeek, run_text, htake, hdecode,
          run_advance hle]
    · simp [hzero, run_ensure, hle, readBytes]

theorem agrees_readBinary (bs : Bytes) : Agrees readBinary SaslClient.readBinary bs := by
  unfold Agrees readBinary SaslClient.readBinary
  refine agrees_bind (agrees_readLength bs) ?_
  intro length rest hlength
  have hplus : plus length 1 = .ok (length + 1) := by
    have := (readLength_eq_ok_iff.mp hlength).1
    exact plus_of_lt (by unfold wordCapacity UInt64.size; omega)
  by_cases hle : length + 1 ≤ rest.length
  · obtain ⟨b, rest, rfl⟩ := List.exists_cons_of_length_pos (l := rest) (by omega)
    have hle' : length ≤ rest.length := Nat.le_of_succ_le_succ hle
    simp [hplus, run_ensure, hle', readBytes, run_takeByte, run_peek hle', run_advance hle']
  · simp [hplus, run_ensure, hle, readBytes]

theorem agrees_readFrame (bs : Bytes) : Agrees readFrame SaslClient.readFrame bs := by
  unfold Agrees readFrame SaslClient.readFrame
  rw [← bind_assoc]
  refine agrees_bind (agrees_readBytes 4 bs) ?_
  intro digits rest _
  dsimp only
  by_cases hdeclared : LittleEndian.decodeSigned digits < minLength
  · simp [hdeclared]
  · have hmin : 5 ≤ (LittleEndian.decodeSigned digits).toNat := by
      unfold minLength at hdeclared
      omega
    -- at least one byte is left for the body, so it can be cut in front of its last byte
    rw [if_neg hdeclared, if_neg hdeclared, minus_of_le (by omega), lift_ok_bind, ← bind_assoc]
    refine agrees_bind (agrees_readBytes _ rest) ?_
    intro body rest hbody
    obtain ⟨hlength, rfl⟩ := readBytes_eq_ok_iff.mp hbody
    obtain ⟨fields, last, rfl⟩ :=
      (List.eq_nil_or_concat' body).resolve_left (List.length_pos_iff.mp (by omega))
    have hminus : minus (fields ++ [last]).length 1 = .ok fields.length := by
      rw [List.length_append, List.length_singleton, minus_of_le (by omega), Nat.add_sub_cancel]
    have hcut : cut fields.length (fields ++ [last]) = .ok (fields, [last]) := by
      rw [cut_of_le (by simp), List.take_left, List.drop_left]
    have hbyte : byteAt [last] 0 = .ok last := rfl
    rw [hminus, lift_ok_bind, hcut, lift_ok_bind, hbyte, lift_ok_bind, List.getLast?_concat,
      List.dropLast_concat]
    by_cases hlast : last = 0 <;> simp [hlast]

/-- What is made of the result does not matter to the agreement. -/
theorem agrees_map {w : Walk α} {read : Bytes → Except DocumentError (α × Bytes)} {bs : Bytes}
    (h : Agrees w read bs) (f : α → β) :
    Agrees (do return f (← w))
      (fun bs => do
        let (a, rest) ← read bs
        .ok (f a, rest)) bs :=
  agrees_bind h fun _ _ _ => rfl

theorem agrees_readNumber (n : Nat) (make : Nat → α) (bs : Bytes) :
    Agrees (do return make (← readNumber n))
      (fun bs => do
        let (raw, rest) ← readBytes n bs
        .ok (make (LittleEndian.decode raw), rest)) bs := by
  have h := agrees_map (agrees_readBytes n bs) fun raw => make (LittleEndian.decode raw)
  simpa [Agrees, readNumber] using h

theorem agrees_readValue {embedded : Walk Document}
    {read : Bytes → Except DocumentError (Document × Bytes)} {bs : Bytes}
    (h : Agrees embedded read bs) (type : UInt8) (key : String) :
    Agrees (readValue embedded type key) (SaslClient.readValue read type key) bs := by
  unfold Agrees readValue SaslClient.readValue
  match ValueType.ofByte? type with
  | some .double => exact agrees_readNumber 8 (fun n => Value.double ⟨UInt64.ofNat n⟩) bs
  | some .text => exact agrees_map (agrees_readText bs) Value.text
  | some .document => exact agrees_map h Value.document
  | some .binary => exact agrees_map (agrees_readBinary bs) Value.binary
  | some .bool =>
    cases bs with
    | nil => rfl
    | cons b bs =>
      have hflag : (b != 0) = ([b] != [0]) := Bool.eq_iff_iff.mpr (by simp)
      simp [run_ensure, run_takeByte, readBytes, hflag]
  | some .null => rfl
  | some .int32 => exact agrees_readNumber 4 (fun n => Value.int32 (UInt32.ofNat n).toInt32) bs
  | some .int64 => exact agrees_readNumber 8 (fun n => Value.int64 (UInt64.ofNat n).toInt64) bs
  | none => rfl

/-! ## Fields and documents -/

/-- A value that was read is taken from the front of the bytes. -/
theorem length_le_of_readValue {levels : Nat} {type : UInt8} {key : String} {bs rest : Bytes}
    {v : Value} (hbs : bs.length < 2 ^ 31)
    (h : SaslClient.readValue (SaslClient.readDocument levels) type key bs = .ok (v, rest)) :
    rest.length ≤ bs.length := by
  obtain rfl := type_of_readValue h
  obtain ⟨⟨front, -, rfl⟩, -⟩ := (v.readBack hbs).mp h
  rw [List.length_append]
  exact Nat.le_add_left _ _

/-- A round over the fields is the reader of a key and that of its value, one after the other. -/
theorem agrees_readField {embedded : Walk Document}
    {read : Bytes → Except DocumentError (Document × Bytes)} (h : ∀ bs, Agrees embedded read bs)
    {type : UInt8} {bs : Bytes} (hbs : bs.length < 2 ^ 31) :
    (readField (readValue embedded)).run (type :: bs) =
      (do
        let (key, bs) ← SaslClient.readKey bs
        let (value, bs) ← SaslClient.readValue read type key bs
        .ok ((key, value), bs)).mapError Halt.refused := by
  unfold readField
  rw [StateT.run_bind, run_takeByte, Except.ok_bind]
  refine agrees_bind (agrees_readKey hbs) ?_
  intro key back _
  exact agrees_map (agrees_readValue (h back) type key) (Prod.mk key)

/-- The rounds over the fields, by induction on the rounds that the reader allows itself: the body
gets shorter in each, so there are always enough, and the walk never idles. -/
theorem readFields_eq {depth levels : Nat}
    (hembedded : ∀ bs, Agrees (readDocument depth) (SaslClient.readDocument levels) bs) :
    ∀ {rounds : Nat} {body : Bytes}, body.length ≤ rounds → body.length < 2 ^ 31 →
      readFields (readValue (readDocument depth)) body =
        (SaslClient.readFields (SaslClient.readDocument levels) rounds body).mapError .refused
  | rounds, [], _, _ => by
    rw [readFields, readFields_nil]
    rfl
  | rounds + 1, type :: bs, hrounds, hbody => by
    have hbs : bs.length < 2 ^ 31 := Nat.lt_of_succ_lt hbody
    rw [readFields, SaslClient.readFields, agrees_readField hembedded hbs]
    cases hkey : SaslClient.readKey bs with
    | error e => rfl
    | ok p =>
      obtain ⟨key, back⟩ := p
      obtain ⟨-, rfl⟩ := readKey_eq_ok_iff.mp hkey
      rw [List.length_append, List.length_cons] at hbs
      cases hvalue : SaslClient.readValue (SaslClient.readDocument levels) type key back with
      | error e => simp [hvalue]
      | ok q =>
        obtain ⟨value, rest⟩ := q
        have hle : rest.length ≤ back.length := length_le_of_readValue (by omega) hvalue
        have hshorter : rest.length < (type :: (Utf8.encode key ++ 0 :: back)).length := by
          simp only [List.length_cons, List.length_append]
          omega
        have ih : readFields (readValue (readDocument depth)) rest =
            (SaslClient.readFields (SaslClient.readDocument levels) rounds rest).mapError
              .refused := readFields_eq hembedded (by omega) (by omega)
        simp only [hvalue, Except.ok_bind, Except.mapError_ok, List.isEmpty_cons,
          Bool.false_eq_true, if_false, hshorter, dite_true, ih]
        cases SaslClient.readFields (SaslClient.readDocument levels) rounds rest <;> rfl

/-- A document at a depth is read with the levels that are left below it. -/
theorem agrees_readDocument : ∀ {levels depth : Nat}, depth + levels = maxDepth + 1 →
    ∀ bs, Agrees (readDocument depth) (SaslClient.readDocument levels) bs
  | 0, depth, hdepth, bs => by
    have hstrayed : ¬ maxDepth + 1 < depth := by omega
    have hdeep : maxDepth < depth := by omega
    unfold Agrees
    rw [readDocument, dif_neg hstrayed, if_pos hdeep]
    rfl
  | levels + 1, depth, hdepth, bs => by
    have hstrayed : ¬ maxDepth + 1 < depth := by omega
    have hdeep : ¬ maxDepth < depth := by omega
    have hinner : ∀ bs, Agrees (readDocument (depth + 1)) (SaslClient.readDocument levels) bs :=
      agrees_readDocument (by omega)
    unfold Agrees
    rw [readDocument, dif_neg hstrayed, if_neg hdeep, SaslClient.readDocument]
    refine agrees_bind (agrees_readFrame bs) ?_
    intro body rest hbody
    have hlt := (readFrame_eq_ok_iff.mp hbody).1
    rw [readFields_eq hinner le_rfl (by omega)]
    dsimp only
    cases SaslClient.readFields (SaslClient.readDocument levels) body.length body <;> rfl

theorem signed_eq_natCast {length : Nat} (h : length < 2 ^ 63) : signed length = length := by
  unfold signed wordCapacity UInt64.size
  exact Int.bmod_eq_of_le (by omega) (by omega)

/-- On a buffer whose length a signed word can hold, the walk gives what the reader gives. -/
theorem decode_eq {bs : Bytes} (h : bs.length < 2 ^ 63) :
    decode bs = (Document.decode bs).mapError .refused := by
  have hread : (readDocument 0).run bs = _ :=
    agrees_readDocument (Nat.zero_add (maxDepth + 1)) bs
  unfold decode Document.decode
  rw [hread]
  cases SaslClient.readDocument (maxDepth + 1) bs with
  | error e => rfl
  | ok p =>
    obtain ⟨d, rest⟩ := p
    simp only [Except.mapError_ok, Except.ok_bind, signed_eq_natCast h]
    cases rest <;> rfl

/-- **Hostile bytes.** Whatever the bytes are, the walk does what the reader does: it gives a
document or refuses the bytes. It never leaves the range of an operation, never enters a document
more than one level below the last, and takes some bytes in every round over the fields. When it
gives a document, there are two bytes for each of its fields, at all levels, and five more. -/
theorem decode_stays_in_range {bs : Bytes} (h : bs.length < 2 ^ 63) :
    decode bs = (Document.decode bs).mapError .refused ∧
      ((∃ d, decode bs = .ok d ∧ 2 * d.fieldCount + 5 ≤ bs.length) ∨
        ∃ e, decode bs = .error (.refused e)) := by
  refine ⟨decode_eq h, ?_⟩
  rw [decode_eq h]
  cases hread : Document.decode bs with
  | error e => exact .inr ⟨e, rfl⟩
  | ok d =>
    refine .inl ⟨d, rfl, ?_⟩
    obtain ⟨hfits, -⟩ := Document.decode_eq_ok_iff.mp hread
    rw [← hfits.length_eq]
    exact d.fieldCount_le

/-- A length prefix near the greatest, with one byte behind it. -/
theorem decode_greatest_prefix :
    ([255, 255, 255, 127, 0] : Bytes).length < 2 ^ 63 ∧
      decode [255, 255, 255, 127, 0] = .error (.refused (.truncated (2 ^ 31 - 6))) := by
  have hlength : ([255, 255, 255, 127, 0] : Bytes).length < 2 ^ 63 := by decide
  refine ⟨hlength, (decode_stays_in_range hlength).1.trans ?_⟩
  decide +kernel

end SaslClient.Walk
