import SaslClient.Json.Record
import SaslClient.Proofs.Json.Text

/-!
# Where a record comes from

A record that was read is one that its shape makes of some fields, whichever fields they are and in
whatever form they stand. An object that is written member by member is read member by member.

Main results:

* `makes_of_parseRecord`: what is read is made by the shape.
* `readMembers_member`, `readMembers_end`: reading one member of an object, and its end.
-/

namespace SaslClient.Json

variable {σ τ : Type} {shape : Shape σ τ} {record : τ}

/-- The shape makes this record of some fields. -/
def Shape.Makes (shape : Shape σ τ) (record : τ) : Prop :=
  ∃ filled, shape.finish filled = some record

theorem makes_of_readMembers {rounds : Nat} {isFirst : Bool} {filled : σ} {bs rest : Bytes}
    (h : readMembers shape rounds isFirst filled bs = .ok (record, rest)) : shape.Makes record := by
  induction rounds generalizing isFirst filled bs with
  | zero => cases h
  | succ rounds ih =>
    rw [readMembers, Except.bind_eq_ok_iff] at h
    obtain ⟨⟨key, back⟩, -, h⟩ := h
    cases key with
    | none =>
      dsimp only at h
      split at h
      next record' hfinish =>
        cases h
        exact ⟨filled, hfinish⟩
      next => cases h
    | some key =>
      dsimp only at h
      split at h
      next field hfield =>
        split at h
        next => cases h
        next =>
          obtain ⟨p, -, h⟩ := Except.bind_eq_ok_iff.mp h
          exact ih h
      next =>
        split at h
        next =>
          obtain ⟨back, -, h⟩ := Except.bind_eq_ok_iff.mp h
          exact ih h
        next => cases h

theorem makes_of_readElements {fields : List (Field σ)} {isFirst : Bool} {filled : σ}
    {bs rest : Bytes} (h : readElements shape fields isFirst filled bs = .ok (record, rest)) :
    shape.Makes record := by
  induction fields generalizing isFirst filled bs with
  | nil =>
    rw [readElements] at h
    split at h
    next record' hfinish =>
      cases h
      exact ⟨filled, hfinish⟩
    next => cases h
  | cons field fields ih =>
    rw [readElements, Except.bind_eq_ok_iff] at h
    obtain ⟨element?, -, h⟩ := h
    cases element? with
    | none => cases h
    | some element =>
      obtain ⟨p, -, h⟩ := Except.bind_eq_ok_iff.mp h
      exact ih h

theorem exists_inside_of_closeRecord {inside : Except Halt (τ × Bytes)}
    {close : Bytes → Except Fault Bytes} {pass : Bytes → Bytes} {rest : Bytes}
    (h : closeRecord inside close pass = .ok (record, rest)) :
    ∃ back, inside = .ok (record, back) := by
  unfold closeRecord at h
  split at h
  next record' back =>
    obtain ⟨_, -, h⟩ := Except.bind_eq_ok_iff.mp h
    cases h
    exact ⟨back, rfl⟩
  next => cases h
  next => cases h

theorem makes_of_readRecord {bs rest : Bytes} (h : readRecord shape bs = .ok (record, rest)) :
    shape.Makes record := by
  unfold readRecord at h
  split at h
  next => cases h
  next b back hbs =>
    split at h
    next =>
      obtain ⟨_, hinside⟩ := exists_inside_of_closeRecord h
      exact makes_of_readElements hinside
    next =>
      split at h
      next =>
        obtain ⟨_, hinside⟩ := exists_inside_of_closeRecord h
        exact makes_of_readMembers hinside
      next => cases h

/-- What a text is read as is made by the shape. -/
theorem makes_of_parseRecord {text : String} (h : parseRecord shape text = .ok record) :
    shape.Makes record := by
  unfold parseRecord at h
  obtain ⟨⟨record', rest⟩, hread, h⟩ := Except.bind_eq_ok_iff.mp (Except.mapError_eq_ok_iff.mp h)
  dsimp only at h
  split at h
  next =>
    cases h
    exact makes_of_readRecord hread
  next => cases h

/-! ## Members that were written -/

/-- A member of an object. -/
def member (name value : String) : String :=
  quote name ++ ":" ++ value

/-- What stands in front of a member: nothing for the first one, a comma for the others. -/
def separator (isFirst : Bool) : Bytes :=
  if isFirst then [] else [byte ',']

theorem readKey_written (isFirst : Bool) (name : String) (rest : Bytes) :
    readKey isFirst (separator isFirst ++ (Utf8.encode (quote name) ++ rest)) =
      .ok (some name, rest) := by
  rw [encode_quote, List.cons_append, List.append_assoc, List.singleton_append]
  have hstring : readKey isFirst
      (separator isFirst ++ byte '"' :: (body name ++ byte '"' :: rest)) =
        readString (body name ++ byte '"' :: rest) >>= fun r => .ok (some r.1, r.2) := by
    cases isFirst <;> rfl
  rw [hstring, readString_body]
  rfl

/-- A member fills its field, if the field was not filled before. -/
theorem readMembers_member {isFirst : Bool} {filled filled' : σ} {field : Field σ}
    {name value : String} {rest : Bytes}
    (hfield : shape.fields.find? (·.name == name) = some field)
    (hfresh : field.isFilled filled = false)
    (hread : field.read filled (Utf8.encode value ++ rest) = .ok (filled', rest)) (rounds : Nat) :
    readMembers shape (rounds + 1) isFirst filled
        (separator isFirst ++ (Utf8.encode (member name value) ++ rest)) =
      readMembers shape rounds false filled' rest := by
  have hbytes : Utf8.encode (member name value) ++ rest =
      Utf8.encode (quote name) ++ byte ':' :: (Utf8.encode value ++ rest) := by
    have hcolon : Utf8.encode ":" = [byte ':'] := by decide
    rw [member, Utf8.encode_append, Utf8.encode_append, hcolon]
    simp
  have hcolon : readColon (byte ':' :: (Utf8.encode value ++ rest)) =
      .ok (Utf8.encode value ++ rest) := rfl
  rw [hbytes, readMembers, readKey_written]
  simp only [located, Except.mapError_ok, Except.ok_bind, hfield, hfresh, hcolon, hread,
    Bool.false_eq_true, if_false]

/-- At the end of an object the record is made. -/
theorem readMembers_end {filled : σ} (h : shape.finish filled = some record) (rounds : Nat)
    (rest : Bytes) :
    readMembers shape (rounds + 1) false filled (0x7D :: rest) = .ok (record, 0x7D :: rest) := by
  have hkey : readKey false (0x7D :: rest) = .ok (none, 0x7D :: rest) := rfl
  rw [readMembers, hkey]
  simp only [located, Except.mapError_ok, Except.ok_bind, h]

end SaslClient.Json
