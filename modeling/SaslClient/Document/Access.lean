import SaslClient.Document.Basic
import SaslClient.Document.Error

/-!
# Typed fields

Reading a field as a value of one kind. A missing key is reported before a value of another kind.

Main results: `getAs_eq_ok_iff` and `getAs_eq_error_iff`, what a typed look-up gives in terms of the
first field with the key.
-/

namespace SaslClient

namespace Value

/-- The text that the value is. -/
def text? : Value → Option String
  | .text s => some s
  | _ => none

/-- The bytes that the value is. -/
def binary? : Value → Option Bytes
  | .binary bytes => some bytes
  | _ => none

/-- The 32-bit integer that the value is. -/
def int32? : Value → Option Int32
  | .int32 n => some n
  | _ => none

/-- The truth value that the value is. -/
def bool? : Value → Option Bool
  | .bool b => some b
  | _ => none

/-- The value as a double, if it is a number. -/
def toDouble? : Value → Option Double
  | .double d => some d
  | .int32 n => some (Double.ofInt n.toInt)
  | .int64 n => some (Double.ofInt n.toInt)
  | _ => none

@[simp] theorem text?_eq_some_iff {v : Value} {s : String} : v.text? = some s ↔ v = .text s := by
  cases v <;> simp [text?]

@[simp] theorem binary?_eq_some_iff {v : Value} {bytes : Bytes} :
    v.binary? = some bytes ↔ v = .binary bytes := by
  cases v <;> simp [binary?]

@[simp] theorem int32?_eq_some_iff {v : Value} {n : Int32} : v.int32? = some n ↔ v = .int32 n := by
  cases v <;> simp [int32?]

@[simp] theorem bool?_eq_some_iff {v : Value} {b : Bool} : v.bool? = some b ↔ v = .bool b := by
  cases v <;> simp [bool?]

end Value

namespace Document

/-- The value under a key that must be there. -/
def require (d : Document) (key : String) : Except DocumentError Value :=
  match d.get? key with
  | some value => .ok value
  | none => .error (.missingField key)

/-- The value under a key, which must be of one kind. -/
def getAs {α : Type} (kind : FieldKind) (read? : Value → Option α) (d : Document) (key : String) :
    Except DocumentError α := do
  match read? (← d.require key) with
  | some a => .ok a
  | none => .error (.fieldType key kind)

/-- The text under a key. -/
def getText : Document → String → Except DocumentError String :=
  getAs .text Value.text?

/-- The bytes under a key. -/
def getBinary : Document → String → Except DocumentError Bytes :=
  getAs .binary Value.binary?

/-- The 32-bit integer under a key. -/
def getInt32 : Document → String → Except DocumentError Int32 :=
  getAs .int32 Value.int32?

/-- The truth value under a key. -/
def getBool : Document → String → Except DocumentError Bool :=
  getAs .bool Value.bool?

/-- The number under a key, whatever its width, as a double. -/
def getDouble : Document → String → Except DocumentError Double :=
  getAs .number Value.toDouble?

theorem getAs_eq_ok_iff {α : Type} {kind : FieldKind} {read? : Value → Option α} {d : Document}
    {key : String} {a : α} :
    getAs kind read? d key = .ok a ↔ ∃ v, d.get? key = some v ∧ read? v = some a := by
  unfold getAs require
  cases d.get? key with
  | none => simp [bind, Except.bind]
  | some v => cases h : read? v <;> simp [bind, Except.bind, h]

theorem getAs_eq_error_iff {α : Type} {kind : FieldKind} {read? : Value → Option α} {d : Document}
    {key : String} {e : DocumentError} :
    getAs kind read? d key = .error e ↔
      d.get? key = none ∧ e = .missingField key ∨
      ∃ v, d.get? key = some v ∧ read? v = none ∧ e = .fieldType key kind := by
  unfold getAs require
  cases d.get? key with
  | none => simp [bind, Except.bind, eq_comm]
  | some v => cases h : read? v <;> simp [bind, Except.bind, h, eq_comm]

theorem getText_eq_ok_iff {d : Document} {key s : String} :
    d.getText key = .ok s ↔ d.get? key = some (.text s) := by
  simp [getText, getAs_eq_ok_iff]

theorem getBinary_eq_ok_iff {d : Document} {key : String} {bytes : Bytes} :
    d.getBinary key = .ok bytes ↔ d.get? key = some (.binary bytes) := by
  simp [getBinary, getAs_eq_ok_iff]

theorem getInt32_eq_ok_iff {d : Document} {key : String} {n : Int32} :
    d.getInt32 key = .ok n ↔ d.get? key = some (.int32 n) := by
  simp [getInt32, getAs_eq_ok_iff]

theorem getBool_eq_ok_iff {d : Document} {key : String} {b : Bool} :
    d.getBool key = .ok b ↔ d.get? key = some (.bool b) := by
  simp [getBool, getAs_eq_ok_iff]

end Document

end SaslClient
