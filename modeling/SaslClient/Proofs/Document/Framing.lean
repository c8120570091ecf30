import SaslClient.Proofs.Document.Extension

/-!
# Where a document ends

The length prefix of a document decides alone how many bytes belong to it. Bytes that end earlier
are refused before any field is looked at, and the error counts what is missing: of the prefix as
long as it is not whole, and of the document from then on. Bytes behind the end play no part in
reading the document; decoding refuses them afterwards, for the length of the whole input.

Main results:

* `readFrame_of_isPrefix`: what is missing from a document that is cut short.
* `Document.framing_exact`: of all the bytes that begin with a document or that a document begins
  with, the document itself is the only one that is decoded.
-/

namespace SaslClient

theorem readBytes_of_lt {n : Nat} {bs : Bytes} (h : bs.length < n) :
    readBytes n bs = .error (.truncated (n - bs.length)) :=
  if_neg (Nat.not_le.mpr h)

/-- A document that is cut short lacks the rest of its length prefix, or else the rest of what the
prefix announces. -/
theorem readFrame_of_isPrefix {body p : Bytes} (hlt : body.length + 5 < 2 ^ 31)
    (hp : p <+: frame body) (hshort : p.length < (frame body).length) :
    readFrame p =
      .error (.truncated
        (if p.length < 4 then 4 - p.length else (frame body).length - p.length)) := by
  unfold readFrame
  by_cases h4 : p.length < 4
  · rw [if_pos h4, readBytes_of_lt h4]
    rfl
  · -- the prefix is whole, so it tells the length of what was cut off
    have hdigits : (LittleEndian.encode 4 (body.length + 5)).length = 4 :=
      LittleEndian.length_encode 4 _
    have hprefix : LittleEndian.encode 4 (body.length + 5) <+: frame body :=
      ⟨body ++ [0], by rw [frame, List.append_assoc]⟩
    obtain ⟨back, rfl⟩ := List.prefix_of_prefix_length_le hprefix hp (by omega)
    have hread : readBytes 4 (LittleEndian.encode 4 (body.length + 5) ++ back) =
        .ok (LittleEndian.encode 4 (body.length + 5), back) :=
      readBytes_eq_ok_iff.mpr ⟨hdigits, rfl⟩
    have hmin : ¬ ((body.length + 5 : Nat) : Int) < minLength := by
      unfold minLength
      omega
    rw [List.length_append, hdigits, length_frame] at hshort
    have hback : back.length < body.length + 5 - 4 := by omega
    rw [hread, Except.ok_bind]
    dsimp only
    rw [(decodeSigned_eq_iff hdigits).mpr ⟨rfl, hlt⟩, if_neg hmin, Int.toNat_natCast,
      readBytes_of_lt hback, Except.error_bind, if_neg h4, List.length_append, hdigits,
      length_frame]
    congr 2
    omega

namespace Document

theorem decode_eq_ok_iff_read {bs : Bytes} {d : Document} :
    decode bs = .ok d ↔ readDocument (maxDepth + 1) bs = .ok (d, []) := by
  unfold decode
  simp only [Except.bind_eq_ok_iff, Prod.exists]
  constructor
  · rintro ⟨d', rest, hread, h⟩
    split at h
    next hrest =>
      cases h
      rw [hread, List.isEmpty_iff.mp hrest]
    next => cases h
  · intro hread
    exact ⟨d, [], hread, rfl⟩

/-- What is decoded is one frame. -/
theorem exists_frame_of_decode {bs : Bytes} {d : Document} (h : decode bs = .ok d) :
    ∃ body, body.length + 5 < 2 ^ 31 ∧ bs = frame body := by
  obtain ⟨body, hlt, hbs, -⟩ := readDocument_succ_eq_ok_iff.mp (decode_eq_ok_iff_read.mp h)
  exact ⟨body, hlt, by rw [hbs, List.append_nil]⟩

/-- A document that is cut short is refused for the bytes that it lacks. -/
theorem decode_of_isPrefix {bs p : Bytes} {d : Document} (h : decode bs = .ok d) (hp : p <+: bs)
    (hne : p ≠ bs) :
    decode p =
      .error (.truncated (if p.length < 4 then 4 - p.length else bs.length - p.length)) := by
  obtain ⟨body, hlt, rfl⟩ := exists_frame_of_decode h
  have hshort : p.length < (frame body).length :=
    Nat.lt_of_le_of_ne hp.length_le fun hlength => hne (hp.eq_of_length hlength)
  rw [decode, readDocument, readFrame_of_isPrefix hlt hp hshort]
  rfl

/-- A document with bytes behind it is refused for the length of the whole. -/
theorem decode_append {bs s : Bytes} {d : Document} (h : decode bs = .ok d) (hs : s ≠ []) :
    decode (bs ++ s) = .error (.invalidLength (bs.length + s.length)) := by
  have hread := (stable_readDocument _).append (decode_eq_ok_iff_read.mp h) s
  have hrest : ([] ++ s).isEmpty = false := by simpa using hs
  rw [decode, hread, Except.ok_bind]
  dsimp only
  rw [hrest, if_neg Bool.false_ne_true, List.length_append, Int.natCast_add]

/-- **A document says where it ends.** Of the bytes that a decoded document begins with, none but
all of them are decoded: as long as the length prefix is not whole, the error counts the bytes that
it lacks, and from then on those that the document lacks. With any bytes behind it, the document is
refused for the length of the whole. So no document begins with another one, and none can stand
behind another. -/
theorem framing_exact {bs : Bytes} {d : Document} (h : decode bs = .ok d) :
    (∀ p, p <+: bs → p ≠ bs →
      decode p =
        .error (.truncated (if p.length < 4 then 4 - p.length else bs.length - p.length))) ∧
    (∀ s, s ≠ [] → decode (bs ++ s) = .error (.invalidLength (bs.length + s.length))) ∧
    (∀ bs' d', decode bs' = .ok d' → bs <+: bs' → bs = bs' ∧ d = d') ∧
    ∀ bs' d', decode bs' = .ok d' →
      decode (bs ++ bs') = .error (.invalidLength (bs.length + bs'.length)) := by
  refine ⟨fun p hp hne => decode_of_isPrefix h hp hne, fun s hs => decode_append h hs, ?_, ?_⟩
  · intro bs' d' h' hprefix
    by_cases heq : bs = bs'
    · subst heq
      exact ⟨rfl, Except.ok.inj (h.symm.trans h')⟩
    · rw [decode_of_isPrefix h' hprefix heq] at h
      cases h
  · intro bs' d' h'
    obtain ⟨body, -, rfl⟩ := exists_frame_of_decode h'
    refine decode_append h (List.ne_nil_of_length_pos ?_)
    rw [length_frame]
    exact Nat.succ_pos _

/-- A document with a nested one that holds a binary value: cut short inside its length prefix and
inside the nested document, and with itself behind it. -/
theorem framing_exact_of_nested :
    let bs : Bytes := [26, 0, 0, 0, 0x03, 0x61, 0, 14, 0, 0, 0, 0x05, 0x62, 0, 1, 0, 0, 0, 0, 7, 0,
      0x08, 0x63, 0, 1, 0]
    decode bs = .ok (.ofEntries
        [("a", .document (.ofEntries [("b", .binary [7])])), ("c", .bool true)]) ∧
      decode [26, 0] = .error (.truncated 2) ∧
      decode [26, 0, 0, 0, 0x03, 0x61, 0, 14, 0, 0, 0, 0x05, 0x62] = .error (.truncated 13) ∧
      decode (bs ++ bs) = .error (.invalidLength 52) := by
  intro bs
  have hdecode : decode bs = .ok (.ofEntries
      [("a", .document (.ofEntries [("b", .binary [7])])), ("c", .bool true)]) := by decide +kernel
  obtain ⟨hshort, hlong, -, -⟩ := framing_exact hdecode
  refine ⟨hdecode, ?_, ?_, ?_⟩
  · exact hshort [26, 0] (bs.take_prefix 2) (by decide)
  · exact hshort _ (bs.take_prefix 13) (by decide)
  · exact hlong bs (by decide)

end Document

end SaslClient
