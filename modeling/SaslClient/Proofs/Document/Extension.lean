import SaslClient.Proofs.Document.Decode

/-!
# What follows a value

A reader takes bytes from the front of its buffer. Lengths are checked before anything is cut off,
and whatever is tested afterwards is tested on bytes that were cut off. So what is read does not
depend on the bytes behind it, and more of them mend only an error for missing bytes.

The parts of a document are chains of such readers. A document needs no induction over its nesting:
its fields are read from a body that the length prefix has cut out already.

Main results:

* `Stable.bind`: a chain of readers that are stable is stable.
* `stable_readValue`, `stable_readDocument`: values and documents.
* `reading_ignores_what_follows`: what a value or a document is read from is all that matters.
-/

namespace SaslClient

variable {α β : Type}

/-- What a reader makes of a buffer depends only on the bytes that it takes from the front. -/
structure Stable (read : Bytes → Except DocumentError (α × Bytes)) : Prop where
  /-- What is left is the end of the buffer, and any other end would be left as well. -/
  takes : ∀ {bs a rest}, read bs = .ok (a, rest) →
    ∃ front, bs = front ++ rest ∧ ∀ back, read (front ++ back) = .ok (a, back)
  /-- More bytes mend only an error for missing ones. -/
  refuses : ∀ {bs e}, read bs = .error e → (∀ n, e ≠ .truncated n) →
    ∀ back, read (bs ++ back) = .error e

namespace Stable

variable {read : Bytes → Except DocumentError (α × Bytes)}

theorem append (h : Stable read) {bs rest : Bytes} {a : α} (hread : read bs = .ok (a, rest))
    (back : Bytes) : read (bs ++ back) = .ok (a, rest ++ back) := by
  obtain ⟨front, rfl, hfront⟩ := h.takes hread
  rw [List.append_assoc]
  exact hfront (rest ++ back)

/-- The bytes that were taken are read alike in front of any others. -/
theorem replace (h : Stable read) {front rest : Bytes} {a : α}
    (hread : read (front ++ rest) = .ok (a, rest)) (back : Bytes) :
    read (front ++ back) = .ok (a, back) := by
  obtain ⟨taken, heq, htaken⟩ := h.takes hread
  rw [List.append_cancel_right heq]
  exact htaken back

theorem of_ok (h : Stable read) {bs rest : Bytes} {a : α} (hread : read bs = .ok (a, rest))
    (back : Bytes) :
    rest <:+ bs ∧ read (bs ++ back) = .ok (a, rest ++ back) ∧
      ∀ front, front ++ rest = bs → read (front ++ back) = .ok (a, back) := by
  refine ⟨?_, h.append hread back, ?_⟩
  · obtain ⟨front, rfl, -⟩ := h.takes hread
    exact List.suffix_append front rest
  · rintro front rfl
    exact h.replace hread back

/-! ## Chains of readers -/

/-- What was fixed before the buffer is looked at, and leaves it as it is. -/
theorem of_fixed (x : Except DocumentError α) :
    Stable fun bs => (do let a ← x; Except.ok (a, bs)) where
  takes {bs a rest} h := by
    obtain ⟨a', rfl, h⟩ := Except.bind_eq_ok_iff.mp h
    cases h
    exact ⟨[], rfl, fun back => rfl⟩
  refuses {bs e} h _ back := by
    rcases Except.bind_eq_error_iff.mp h with rfl | ⟨a, -, h⟩
    · rfl
    · cases h

theorem bind (h : Stable read) {next : α × Bytes → Except DocumentError (β × Bytes)}
    (hnext : ∀ a, Stable fun rest => next (a, rest)) : Stable fun bs => read bs >>= next where
  takes {bs b rest} hread := by
    obtain ⟨⟨a, middle⟩, hfirst, hsecond⟩ := Except.bind_eq_ok_iff.mp hread
    obtain ⟨front, rfl, hfront⟩ := h.takes hfirst
    obtain ⟨front', rfl, hfront'⟩ := (hnext a).takes hsecond
    -- for the first reader, what the second one takes is part of what follows
    refine ⟨front ++ front', (List.append_assoc front front' rest).symm, fun back => ?_⟩
    rw [List.append_assoc, hfront (front' ++ back)]
    exact hfront' back
  refuses {bs e} herror hmissing back := by
    rcases Except.bind_eq_error_iff.mp herror with hfirst | ⟨⟨a, middle⟩, hfirst, hsecond⟩
    · rw [h.refuses hfirst hmissing back]
      rfl
    · rw [h.append hfirst back]
      exact (hnext a).refuses hsecond hmissing back

theorem map (h : Stable read) (f : α → β) :
    Stable fun bs => (do let (a, rest) ← read bs; Except.ok (f a, rest)) :=
  h.bind fun a => of_fixed (.ok (f a))

/-- A choice that was made before the buffer is looked at. -/
theorem ite {c : Prop} [Decidable c] {read' : Bytes → Except DocumentError (α × Bytes)}
    (h : Stable read) (h' : Stable read') : Stable fun bs => if c then read bs else read' bs := by
  by_cases hc : c
  · simpa only [if_pos hc] using h
  · simpa only [if_neg hc] using h'

end Stable

/-! ## The parts of a document -/

theorem stable_readBytes (n : Nat) : Stable (readBytes n) where
  takes {bs raw rest} h := by
    obtain ⟨hraw, rfl⟩ := readBytes_eq_ok_iff.mp h
    exact ⟨raw, rfl, fun back => readBytes_eq_ok_iff.mpr ⟨hraw, rfl⟩⟩
  refuses {bs e} h hmissing _ := by
    unfold readBytes at h
    split at h
    · cases h
    · cases h
      exact absurd rfl (hmissing _)

theorem stable_readLength : Stable readLength :=
  (stable_readBytes 4).bind fun _ => (Stable.of_fixed (.error _)).ite (Stable.of_fixed (.ok _))

/-- A text found in bytes that were cut off already. -/
theorem stable_decode (raw : Bytes) :
    Stable fun rest => match Utf8.decode raw with
      | some s => Except.ok (s, rest)
      | none => .error DocumentError.invalidUtf8 := by
  cases Utf8.decode raw with
  | some s => exact Stable.of_fixed (.ok s)
  | none => exact Stable.of_fixed (.error .invalidUtf8)

theorem stable_readText : Stable readText := by
  refine stable_readLength.bind fun length => ?_
  refine (Stable.of_fixed (.error _)).ite ?_
  exact (stable_readBytes length).bind fun raw => stable_decode (raw.take (length - 1))

theorem stable_readBinary : Stable readBinary :=
  stable_readLength.bind fun length => (stable_readBytes (length + 1)).map (List.drop 1)

theorem stable_readFrame : Stable readFrame := by
  refine (stable_readBytes 4).bind fun digits => ?_
  refine (Stable.of_fixed (.error _)).ite ?_
  refine (stable_readBytes _).bind fun body => ?_
  exact (Stable.of_fixed (.ok _)).ite (Stable.of_fixed (.error _))

/-- The body of a document was cut out by its length prefix before any field of it is read. -/
theorem stable_readDocument (levels : Nat) : Stable (readDocument levels) := by
  cases levels with
  | zero => exact Stable.of_fixed (.error (.tooDeep maxDepth))
  | succ levels =>
    exact stable_readFrame.bind fun body =>
      Stable.of_fixed (readFields (readDocument levels) body.length body)

theorem stable_readValue {embedded : Bytes → Except DocumentError (Document × Bytes)}
    (h : Stable embedded) (type : UInt8) (key : String) : Stable (readValue embedded type key) := by
  unfold readValue
  cases ValueType.ofByte? type with
  | none => exact Stable.of_fixed (.error (.unsupportedType type key))
  | some t =>
    cases t with
    | double =>
      exact (stable_readBytes 8).map fun raw => Value.double ⟨UInt64.ofNat (LittleEndian.decode raw)⟩
    | text => exact stable_readText.map Value.text
    | document => exact h.map Value.document
    | binary => exact stable_readBinary.map Value.binary
    | bool => exact (stable_readBytes 1).map fun raw => Value.bool (raw != [0])
    | null => exact Stable.of_fixed (.ok Value.null)
    | int32 =>
      exact (stable_readBytes 4).map fun raw =>
        Value.int32 (UInt32.ofNat (LittleEndian.decode raw)).toInt32
    | int64 =>
      exact (stable_readBytes 8).map fun raw =>
        Value.int64 (UInt64.ofNat (LittleEndian.decode raw)).toInt64

/-- **What follows a value does not matter.** What is left behind a value that was read is the end of
the buffer. With any bytes behind the buffer, the value is the same and they are left as well; with
any others in place of what was left, the value is the same and those are left. An error stays the
same with any bytes behind the buffer, unless it is one for missing bytes. The same goes for a
document, and all this for any number of levels that may be used. -/
theorem reading_ignores_what_follows (levels : Nat) (type : UInt8) (key : String)
    (bs back : Bytes) :
    let value := readValue (readDocument levels) type key
    let document := readDocument levels
    (∀ v rest, value bs = .ok (v, rest) →
      rest <:+ bs ∧ value (bs ++ back) = .ok (v, rest ++ back) ∧
        ∀ front, front ++ rest = bs → value (front ++ back) = .ok (v, back)) ∧
    (∀ e, value bs = .error e → (∀ n, e ≠ .truncated n) → value (bs ++ back) = .error e) ∧
    (∀ d rest, document bs = .ok (d, rest) →
      rest <:+ bs ∧ document (bs ++ back) = .ok (d, rest ++ back) ∧
        ∀ front, front ++ rest = bs → document (front ++ back) = .ok (d, back)) ∧
    ∀ e, document bs = .error e → (∀ n, e ≠ .truncated n) → document (bs ++ back) = .error e := by
  intro value document
  have hdocument : Stable document := stable_readDocument levels
  have hvalue : Stable value := stable_readValue hdocument type key
  refine ⟨?_, ?_, ?_, ?_⟩
  · intro v rest hread
    exact hvalue.of_ok hread back
  · intro e herror hmissing
    exact hvalue.refuses herror hmissing back
  · intro d rest hread
    exact hdocument.of_ok hread back
  · intro e herror hmissing
    exact hdocument.refuses herror hmissing back

/-- An embedded document in front of other bytes, and a text whose length is negative. -/
theorem reading_ignores_what_follows_embedded :
    readValue (readDocument 1) 0x03 "k" [5, 0, 0, 0, 0, 9, 8] = .ok (.document .empty, [9, 8]) ∧
      readValue (readDocument 1) 0x03 "k" [5, 0, 0, 0, 0, 9, 8, 7] =
        .ok (.document .empty, [9, 8, 7]) ∧
      readValue (readDocument 1) 0x03 "k" [5, 0, 0, 0, 0, 7] = .ok (.document .empty, [7]) ∧
      readValue (readDocument 1) 0x02 "k" [255, 255, 255, 255, 7] = .error (.invalidLength (-1)) := by
  have hread : readValue (readDocument 1) 0x03 "k" [5, 0, 0, 0, 0, 9, 8] =
      .ok (.document .empty, [9, 8]) := by decide +kernel
  have herror : readValue (readDocument 1) 0x02 "k" [255, 255, 255, 255] =
      .error (.invalidLength (-1)) := by decide +kernel
  obtain ⟨hok, -⟩ := reading_ignores_what_follows 1 0x03 "k" [5, 0, 0, 0, 0, 9, 8] [7]
  obtain ⟨-, hlonger, hother⟩ := hok _ _ hread
  obtain ⟨-, hrefused, -⟩ := reading_ignores_what_follows 1 0x02 "k" [255, 255, 255, 255] [7]
  exact ⟨hread, hlonger, hother [5, 0, 0, 0, 0] rfl, hrefused _ herror (by simp)⟩

end SaslClient
