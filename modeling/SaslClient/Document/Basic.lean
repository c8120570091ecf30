import SaslClient.Bytes.Basic
import SaslClient.Document.Double

/-!
# Documents

A document is an ordered list of named fields; a value may be a document again. Documents that were
read may repeat a key. Looking up a key finds its first field, and inserting replaces that field in
place or else appends, so a document built by insertion has each key once.

The view of a document is `entries`, the list of its fields. Main results: `get?_insert_self` and
`get?_insert_of_ne`, an inserted value is found under its key and no other key is touched.
-/

namespace SaslClient

/-- The types of values. -/
inductive ValueType where
  | double
  | text
  | document
  | binary
  | bool
  | null
  | int32
  | int64
deriving DecidableEq, Repr

/-- The byte that stands for a type. -/
def ValueType.byte : ValueType → UInt8
  | .double => 0x01
  | .text => 0x02
  | .document => 0x03
  | .binary => 0x05
  | .bool => 0x08
  | .null => 0x0A
  | .int32 => 0x10
  | .int64 => 0x12

/-- Every type. -/
def ValueType.all : List ValueType :=
  [.double, .text, .document, .binary, .bool, .null, .int32, .int64]

/-- The type that a byte stands for. -/
def ValueType.ofByte? (b : UInt8) : Option ValueType :=
  all.find? (·.byte == b)

theorem ValueType.ofByte?_byte (t : ValueType) : ofByte? t.byte = some t := by
  cases t <;> rfl

theorem ValueType.byte_of_ofByte? {b : UInt8} {t : ValueType} (h : ofByte? b = some t) :
    t.byte = b := by
  simpa using List.find?_some h

mutual

/-- The value of a field. -/
inductive Value where
  | double (d : Double)
  | text (s : String)
  | document (fields : Document)
  | binary (bytes : Bytes)
  | bool (b : Bool)
  | null
  | int32 (n : Int32)
  | int64 (n : Int64)

/-- An ordered list of named fields. -/
inductive Document where
  | empty
  | field (key : String) (value : Value) (rest : Document)

end

deriving instance DecidableEq for Value, Document
deriving instance Inhabited for Value, Document

/-- The type of a value. -/
def Value.type : Value → ValueType
  | .double _ => .double
  | .text _ => .text
  | .document _ => .document
  | .binary _ => .binary
  | .bool _ => .bool
  | .null => .null
  | .int32 _ => .int32
  | .int64 _ => .int64

namespace Document

/-- The fields in order. -/
def entries : Document → List (String × Value)
  | .empty => []
  | .field key value rest => (key, value) :: entries rest

/-- The document with exactly these fields, repeated keys included. -/
def ofEntries : List (String × Value) → Document
  | [] => .empty
  | (key, value) :: rest => .field key value (ofEntries rest)

@[simp] theorem entries_ofEntries (l : List (String × Value)) : (ofEntries l).entries = l := by
  induction l with
  | nil => rfl
  | cons e l ih => simp [ofEntries, entries, ih]

@[simp] theorem ofEntries_entries : (d : Document) → ofEntries d.entries = d
  | .empty => rfl
  | .field key value rest => by simp [ofEntries, entries, ofEntries_entries rest]

/-- The keys in order. -/
def keys (d : Document) : List String :=
  d.entries.map (·.1)

/-- The number of fields. -/
def size (d : Document) : Nat :=
  d.entries.length

/-- Whether there are no fields. -/
def isEmpty (d : Document) : Bool :=
  d.entries.isEmpty

/-- The value of the first field with this key. -/
def get? : Document → String → Option Value
  | .empty, _ => none
  | .field k v rest, key => if k = key then some v else get? rest key

/-- Whether a field has this key. -/
def contains (d : Document) (key : String) : Bool :=
  (d.get? key).isSome

/-- Replaces the value of the first field with this key, or appends a field. -/
def insert : Document → String → Value → Document
  | .empty, key, value => .field key value .empty
  | .field k v rest, key, value =>
    if k = key then .field k value rest else .field k v (insert rest key value)

@[simp] theorem get?_insert_self (d : Document) (key : String) (value : Value) :
    (d.insert key value).get? key = some value := by
  match d with
  | .empty => simp [insert, get?]
  | .field k v rest =>
    by_cases h : k = key
    · simp [insert, get?, h]
    · simp [insert, get?, h, get?_insert_self rest key value]

theorem get?_insert_of_ne (d : Document) {key other : String} (value : Value) (h : key ≠ other) :
    (d.insert key value).get? other = d.get? other := by
  match d with
  | .empty => simp [insert, get?, h]
  | .field k v rest =>
    by_cases hk : k = key
    · simp [insert, get?, hk, h]
    · simp [insert, get?, hk, get?_insert_of_ne rest value h]

/-- The document that inserting these fields in turn into the empty one gives. -/
def ofFields (fields : List (String × Value)) : Document :=
  fields.foldl (fun d f => d.insert f.1 f.2) .empty

end Document

mutual

/-- How many levels of documents the value holds. -/
def Value.depth : Value → Nat
  | .document fields => fields.depth + 1
  | _ => 0

/-- How many levels of documents are embedded below this one. -/
def Document.depth : Document → Nat
  | .empty => 0
  | .field _ value rest => max value.depth rest.depth

end

mutual

/-- Whether two values are equal, doubles being compared as numbers. -/
def Value.same : Value → Value → Bool
  | .double a, .double b => a.same b
  | .text a, .text b => a == b
  | .document a, .document b => a.same b
  | .binary a, .binary b => a == b
  | .bool a, .bool b => a == b
  | .null, .null => true
  | .int32 a, .int32 b => a == b
  | .int64 a, .int64 b => a == b
  | _, _ => false

/-- Whether two documents have equal fields in the same order. -/
def Document.same : Document → Document → Bool
  | .empty, .empty => true
  | .field k v rest, .field k' v' rest' => k == k' && v.same v' && rest.same rest'
  | _, _ => false

end

end SaslClient
