import Mathlib.Algebra.Group.Nat.Defs
import Mathlib.Data.List.Forall2
import SaslClient.Document.Encode

/-!
# The layout of a document

What a reader looks at in a binary form, byte by byte. A reader takes nearly every byte as it
stands. It never looks at the byte behind a text nor at the subtype of a binary value, and it reads
any byte but zero as true. `Document.layout` says which byte is of which kind, and `Fits` which
bytes a reader may therefore meet in place of those that are written.

Main results:

* `Document.byte_layout`: the bytes of the layout are those that are written.
* `Document.fits_encode`: the written form fits the layout.
* `Document.fieldCount_le`: every field takes two bytes at least.
-/

namespace SaslClient

/-! ## Bytes and what a reader makes of them -/

/-- A byte of a binary form. -/
inductive Slot where
  /-- A byte that a reader takes as it stands. -/
  | exact (b : UInt8)
  /-- The byte behind a text. -/
  | textEnd
  /-- The subtype of a binary value. -/
  | subtype
  /-- The flag of a boolean that is true. -/
  | truth
deriving DecidableEq, Repr

namespace Slot

/-- The byte that is written. -/
def byte : Slot → UInt8
  | exact b => b
  | textEnd => 0
  | subtype => genericSubtype
  | truth => 1

/-- Whether a reader makes the same of a byte as of the one that is written. -/
def Admits : Slot → UInt8 → Prop
  | exact b, x => x = b
  | textEnd, _ => True
  | subtype, _ => True
  | truth, x => x ≠ 0

theorem admits_byte (s : Slot) : s.Admits s.byte := by
  cases s <;> simp [Admits, byte]

/-- A byte that is admitted in place of another one stands at one of the three loose places. -/
theorem loose_of_admits {s : Slot} {x : UInt8} (h : s.Admits x) (hne : x ≠ s.byte) :
    s = textEnd ∨ s = subtype ∨ s = truth ∧ x ≠ 0 := by
  cases s with
  | exact b => exact absurd h hne
  | textEnd => exact Or.inl rfl
  | subtype => exact Or.inr (Or.inl rfl)
  | truth => exact Or.inr (Or.inr ⟨rfl, h⟩)

end Slot

/-- The bytes of which each is taken as it stands. -/
def exactly (bs : Bytes) : List Slot :=
  bs.map .exact

@[simp] theorem length_exactly (bs : Bytes) : (exactly bs).length = bs.length :=
  List.length_map _

@[simp] theorem map_byte_exactly (bs : Bytes) : (exactly bs).map Slot.byte = bs := by
  simp [exactly, Function.comp_def, Slot.byte]

/-- Bytes that a reader may meet in place of those of a layout. -/
def Fits (slots : List Slot) (bs : Bytes) : Prop :=
  List.Forall₂ Slot.Admits slots bs

namespace Fits

variable {slots : List Slot} {bs : Bytes}

theorem length_eq (h : Fits slots bs) : slots.length = bs.length :=
  List.Forall₂.length_eq h

theorem map_byte (slots : List Slot) : Fits slots (slots.map Slot.byte) := by
  unfold Fits
  rw [List.forall₂_map_right_iff, List.forall₂_same]
  exact fun s _ => s.admits_byte

end Fits

theorem fits_nil_iff {bs : Bytes} : Fits [] bs ↔ bs = [] :=
  List.forall₂_nil_left_iff

theorem fits_cons_iff {s : Slot} {slots : List Slot} {bs : Bytes} :
    Fits (s :: slots) bs ↔ ∃ b rest, s.Admits b ∧ Fits slots rest ∧ bs = b :: rest :=
  List.forall₂_cons_left_iff

theorem fits_append_iff {front back : List Slot} {bs : Bytes} :
    Fits (front ++ back) bs ↔ ∃ a b, Fits front a ∧ Fits back b ∧ bs = a ++ b := by
  induction front generalizing bs with
  | nil => simp [fits_nil_iff]
  | cons s front ih =>
    rw [List.cons_append, fits_cons_iff]
    constructor
    · rintro ⟨x, rest, hx, hrest, rfl⟩
      obtain ⟨a, b, ha, hb, rfl⟩ := ih.mp hrest
      exact ⟨x :: a, b, fits_cons_iff.mpr ⟨x, a, hx, ha, rfl⟩, hb, rfl⟩
    · rintro ⟨a, b, ha, hb, rfl⟩
      obtain ⟨x, rest, hx, hrest, rfl⟩ := fits_cons_iff.mp ha
      exact ⟨x, rest ++ b, hx, ih.mpr ⟨rest, b, hrest, hb, rfl⟩, rfl⟩

@[simp] theorem fits_exactly_iff {xs bs : Bytes} : Fits (exactly xs) bs ↔ bs = xs := by
  induction xs generalizing bs with
  | nil => exact fits_nil_iff
  | cons x xs ih =>
    have hcons : exactly (x :: xs) = .exact x :: exactly xs := rfl
    rw [hcons, fits_cons_iff]
    constructor
    · rintro ⟨b, rest, rfl, hrest, rfl⟩
      rw [ih.mp hrest]
    · rintro rfl
      exact ⟨x, xs, rfl, ih.mpr rfl, rfl⟩

/-! ## The layout of values and documents -/

/-- The fields of a document with its length in front and the zero behind. -/
def frameLayout (fields : List Slot) : List Slot :=
  exactly (LittleEndian.encode 4 (fields.length + 5)) ++ fields ++ exactly [0]

mutual

/-- The bytes of a value, without its type byte. -/
def Value.layout : Value → List Slot
  | .text s =>
    exactly (LittleEndian.encode 4 ((Utf8.encode s).length + 1) ++ Utf8.encode s) ++ [.textEnd]
  | .document fields => frameLayout fields.fieldsLayout
  | .binary bytes =>
    exactly (LittleEndian.encode 4 bytes.length) ++ .subtype :: exactly bytes
  | .bool true => [.truth]
  | .bool false => exactly [0]
  | .double d => exactly (Value.double d).encode
  | .null => exactly Value.null.encode
  | .int32 n => exactly (Value.int32 n).encode
  | .int64 n => exactly (Value.int64 n).encode

/-- The bytes of the fields, one after the other. -/
def Document.fieldsLayout : Document → List Slot
  | .empty => []
  | .field key value rest =>
    exactly (value.type.byte :: (Utf8.encode key ++ [0])) ++ (value.layout ++ rest.fieldsLayout)

end

/-- The bytes of a document. -/
def Document.layout (d : Document) : List Slot :=
  frameLayout d.fieldsLayout

/-! ## What fits -/

theorem fits_text_iff {s : String} {bs : Bytes} :
    Fits (Value.text s).layout bs ↔
      ∃ last, bs =
        LittleEndian.encode 4 ((Utf8.encode s).length + 1) ++ (Utf8.encode s ++ [last]) := by
  rw [Value.layout, fits_append_iff]
  constructor
  · rintro ⟨a, b, ha, hb, rfl⟩
    obtain ⟨last, rest, -, hrest, rfl⟩ := fits_cons_iff.mp hb
    rw [fits_exactly_iff.mp ha, fits_nil_iff.mp hrest, List.append_assoc]
    exact ⟨last, rfl⟩
  · rintro ⟨last, rfl⟩
    refine ⟨_, [last], fits_exactly_iff.mpr rfl, ?_, by rw [List.append_assoc]⟩
    exact fits_cons_iff.mpr ⟨last, [], trivial, fits_nil_iff.mpr rfl, rfl⟩

theorem fits_binary_iff {bytes bs : Bytes} :
    Fits (Value.binary bytes).layout bs ↔
      ∃ subtype, bs = LittleEndian.encode 4 bytes.length ++ subtype :: bytes := by
  rw [Value.layout, fits_append_iff]
  constructor
  · rintro ⟨a, b, ha, hb, rfl⟩
    obtain ⟨subtype, rest, -, hrest, rfl⟩ := fits_cons_iff.mp hb
    rw [fits_exactly_iff.mp ha, fits_exactly_iff.mp hrest]
    exact ⟨subtype, rfl⟩
  · rintro ⟨subtype, rfl⟩
    refine ⟨_, subtype :: bytes, fits_exactly_iff.mpr rfl, ?_, rfl⟩
    exact fits_cons_iff.mpr ⟨subtype, bytes, trivial, fits_exactly_iff.mpr rfl, rfl⟩

theorem fits_bool_iff {b : Bool} {bs : Bytes} :
    Fits (Value.bool b).layout bs ↔ ∃ x, bs = [x] ∧ b = (x != 0) := by
  cases b with
  | false =>
    rw [Value.layout, fits_exactly_iff]
    constructor
    · rintro rfl
      exact ⟨0, rfl, rfl⟩
    · rintro ⟨x, rfl, hx⟩
      simpa using hx.symm
  | true =>
    rw [Value.layout, fits_cons_iff]
    constructor
    · rintro ⟨x, rest, hx, hrest, rfl⟩
      rw [fits_nil_iff.mp hrest]
      exact ⟨x, rfl, (bne_iff_ne.mpr hx).symm⟩
    · rintro ⟨x, rfl, hx⟩
      exact ⟨x, [], bne_iff_ne.mp hx.symm, fits_nil_iff.mpr rfl, rfl⟩

theorem fits_frameLayout_iff {fields : List Slot} {bs : Bytes} :
    Fits (frameLayout fields) bs ↔ ∃ body, Fits fields body ∧ bs = frame body := by
  rw [frameLayout, fits_append_iff]
  constructor
  · rintro ⟨a, b, ha, hb, rfl⟩
    obtain ⟨digits, body, hdigits, hbody, rfl⟩ := fits_append_iff.mp ha
    rw [fits_exactly_iff.mp hdigits, fits_exactly_iff.mp hb, hbody.length_eq]
    exact ⟨body, hbody, rfl⟩
  · rintro ⟨body, hbody, rfl⟩
    refine ⟨_, [0], fits_append_iff.mpr ⟨_, body, ?_, hbody, rfl⟩, fits_exactly_iff.mpr rfl, rfl⟩
    rw [fits_exactly_iff, hbody.length_eq]

theorem fits_field_iff {key : String} {value : Value} {rest : Document} {bs : Bytes} :
    Fits (Document.field key value rest).fieldsLayout bs ↔
      ∃ front back, Fits value.layout front ∧ Fits rest.fieldsLayout back ∧
        bs = value.type.byte :: (Utf8.encode key ++ 0 :: (front ++ back)) := by
  rw [Document.fieldsLayout, fits_append_iff]
  constructor
  · rintro ⟨name, b, hname, hb, rfl⟩
    obtain ⟨front, back, hfront, hback, rfl⟩ := fits_append_iff.mp hb
    rw [fits_exactly_iff.mp hname]
    exact ⟨front, back, hfront, hback, by simp⟩
  · rintro ⟨front, back, hfront, hback, rfl⟩
    exact ⟨_, front ++ back, fits_exactly_iff.mpr rfl,
      fits_append_iff.mpr ⟨front, back, hfront, hback, rfl⟩, by simp⟩

/-! ## The written form -/

theorem map_byte_frameLayout (fields : List Slot) :
    (frameLayout fields).map Slot.byte = frame (fields.map Slot.byte) := by
  simp [frameLayout, frame]

mutual

theorem Value.byte_layout : (v : Value) → v.layout.map Slot.byte = v.encode
  | .text s => by simp [Value.layout, Value.encode, Slot.byte]
  | .document fields => by
    rw [Value.layout, Value.encode, map_byte_frameLayout, fields.byte_fieldsLayout]
  | .binary bytes => by simp [Value.layout, Value.encode, Slot.byte]
  | .bool true => rfl
  | .bool false => rfl
  | .double d => by rw [Value.layout, map_byte_exactly]
  | .null => rfl
  | .int32 n => by rw [Value.layout, map_byte_exactly]
  | .int64 n => by rw [Value.layout, map_byte_exactly]

theorem Document.byte_fieldsLayout : (d : Document) → d.fieldsLayout.map Slot.byte = d.encodeFields
  | .empty => rfl
  | .field key value rest => by
    rw [Document.fieldsLayout, Document.encodeFields, List.map_append, List.map_append,
      map_byte_exactly, value.byte_layout, rest.byte_fieldsLayout]
    simp

end

namespace Document

theorem byte_layout (d : Document) : d.layout.map Slot.byte = d.encode := by
  rw [layout, encode, map_byte_frameLayout, byte_fieldsLayout]

theorem fits_encode (d : Document) : Fits d.layout d.encode :=
  d.byte_layout ▸ Fits.map_byte d.layout

/-- Whatever fits the layout is as long as the written form. -/
theorem length_of_fits {d : Document} {bs : Bytes} (h : Fits d.layout bs) :
    bs.length = d.encode.length := by
  rw [← h.length_eq, ← d.byte_layout, List.length_map]

/-- Bytes that fit the layout and differ from the written form do so at a loose place. -/
theorem loose_of_fits {d : Document} {bs : Bytes} (h : Fits d.layout bs) {i : Nat} {b e : UInt8}
    (hb : bs[i]? = some b) (he : d.encode[i]? = some e) (hne : b ≠ e) :
    d.layout[i]? = some .textEnd ∨ d.layout[i]? = some .subtype ∨
      d.layout[i]? = some .truth ∧ b ≠ 0 := by
  rw [← byte_layout, List.getElem?_map, Option.map_eq_some_iff] at he
  obtain ⟨slot, hslot, rfl⟩ := he
  obtain ⟨hi, rfl⟩ := List.getElem?_eq_some_iff.mp hslot
  obtain ⟨hi', rfl⟩ := List.getElem?_eq_some_iff.mp hb
  have hadmits : d.layout[i].Admits bs[i] := List.forall₂_iff_get.mp h |>.2 i hi hi'
  rw [hslot]
  simpa using Slot.loose_of_admits hadmits hne

end Document

/-! ## Counting fields, and keys without NUL -/

mutual

/-- The number of fields in a value, at all levels. -/
def Value.fieldCount : Value → Nat
  | .document fields => fields.fieldCount
  | _ => 0

/-- The number of fields in a document, at all levels. -/
def Document.fieldCount : Document → Nat
  | .empty => 0
  | .field _ value rest => 1 + value.fieldCount + rest.fieldCount

end

mutual

/-- No key inside the value holds the character NUL. -/
def Value.NulFree : Value → Prop
  | .document fields => fields.NulFree
  | _ => True

/-- No key of the document, at any level, holds the character NUL. -/
def Document.NulFree : Document → Prop
  | .empty => True
  | .field key value rest => '\x00' ∉ key.toList ∧ value.NulFree ∧ rest.NulFree

end

@[simp] theorem length_frameLayout (fields : List Slot) :
    (frameLayout fields).length = fields.length + 5 := by
  simp [frameLayout]
  omega

mutual

theorem Value.fieldCount_le : (v : Value) → 2 * v.fieldCount ≤ v.layout.length
  | .document fields => by
    have h := fields.fieldCount_le_fieldsLayout
    rw [Value.fieldCount, Value.layout, length_frameLayout]
    omega
  | .text _ | .binary _ | .bool _ | .double _ | .null | .int32 _ | .int64 _ => Nat.zero_le _

theorem Document.fieldCount_le_fieldsLayout :
    (d : Document) → 2 * d.fieldCount ≤ d.fieldsLayout.length
  | .empty => Nat.zero_le _
  | .field key value rest => by
    have hvalue := value.fieldCount_le
    have hrest := rest.fieldCount_le_fieldsLayout
    rw [Document.fieldCount, Document.fieldsLayout, List.length_append, List.length_append,
      length_exactly, List.length_cons, List.length_append, List.length_singleton]
    omega

end

theorem Document.fieldCount_le (d : Document) : 2 * d.fieldCount + 5 ≤ d.layout.length := by
  have h := d.fieldCount_le_fieldsLayout
  rw [layout, length_frameLayout]
  omega

end SaslClient
