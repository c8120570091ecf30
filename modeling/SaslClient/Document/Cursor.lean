import SaslClient.Document.Decode

/-!
# Reading with operations that can leave the buffer

The reader of documents taken down to the single operations on its buffer. Cutting a buffer,
looking at a byte of it and moving past bytes need that many bytes to be there; a difference of
lengths must not be negative, and a sum of lengths must fit a 64-bit word. An operation outside its
range ends the walk with `Halt.outOfRange`.

Two more ends stand for what the reader relies on without testing it: a document is entered at most
one level below the last, and every round over the fields takes some bytes.
-/

namespace SaslClient

/-- How a walk over a buffer ends early. -/
inductive Halt where
  /-- The bytes are refused. -/
  | refused (e : DocumentError)
  /-- An operation left its range. -/
  | outOfRange
  /-- A document was entered more than one level below the last. -/
  | strayed (depth : Nat)
  /-- A round over the fields took no bytes. -/
  | idle
deriving DecidableEq, Repr

/-- A walk over a buffer, of which the bytes that are left are the state. -/
abbrev Walk := StateT Bytes (Except Halt)

namespace Walk

variable {α : Type}

/-- Ends the walk because the bytes are no document. -/
def refuse (e : DocumentError) : Walk α :=
  throw (.refused e)

/-! ## Lengths -/

/-- How many lengths a machine word can tell apart. -/
def wordCapacity : Nat := UInt64.size

/-- A difference of lengths. -/
def minus (a b : Nat) : Except Halt Nat :=
  if b ≤ a then .ok (a - b) else .error .outOfRange

/-- A sum of lengths. -/
def plus (a b : Nat) : Except Halt Nat :=
  if a + b < wordCapacity then .ok (a + b) else .error .outOfRange

/-- A length as a signed word. -/
def signed (length : Nat) : Int :=
  Int.bmod length wordCapacity

/-! ## Operations on the buffer -/

/-- Cuts a buffer behind its first `n` bytes. -/
def cut (n : Nat) (bs : Bytes) : Except Halt (Bytes × Bytes) :=
  if n ≤ bs.length then .ok (bs.take n, bs.drop n) else .error .outOfRange

/-- The byte at an index of a buffer. -/
def byteAt (bs : Bytes) (i : Nat) : Except Halt UInt8 :=
  match bs[i]? with
  | some b => .ok b
  | none => .error .outOfRange

/-- Takes the next `n` bytes. -/
def take (n : Nat) : Walk Bytes :=
  cut n

/-- Takes the next byte. -/
def takeByte : Walk UInt8 := do
  byteAt (← take 1) 0

/-- The next `n` bytes, which are left in the buffer. -/
def peek (n : Nat) : Walk Bytes := do
  let (front, _) ← cut n (← get)
  return front

/-- Moves past the next `n` bytes. -/
def advance (n : Nat) : Walk Unit := do
  let _ ← take n

/-- Refuses a buffer that ends before `n` more bytes. -/
def ensure (n : Nat) : Walk Unit := do
  let left := (← get).length
  if left < n then refuse (.truncated (← minus n left))

/-! ## The parts of a document -/

/-- A text, if the bytes are well-formed. -/
def text (bs : Bytes) : Walk String :=
  match Utf8.decode bs with
  | some s => return s
  | none => refuse .invalidUtf8

/-- A length prefix; a negative one is refused. -/
def readLength : Walk Nat := do
  ensure 4
  let declared := LittleEndian.decodeSigned (← take 4)
  if declared < 0 then refuse (.invalidLength declared)
  return declared.toNat

/-- The text that ends before the first zero byte. -/
def readKey : Walk String := do
  match (← get).findIdx? (· == 0) with
  | none => refuse (.truncated 1)
  | some stop =>
    let key ← text (← peek stop)
    advance (← plus stop 1)
    return key

/-- A text behind its length; the length counts a last byte that is not part of the text. -/
def readText : Walk String := do
  let length ← readLength
  if length = 0 then refuse (.invalidLength 0)
  ensure length
  let s ← text (← peek (← minus length 1))
  advance length
  return s

/-- Bytes behind their length and a subtype, which is not kept. -/
def readBinary : Walk Bytes := do
  let length ← readLength
  ensure (← plus length 1)
  let _subtype ← takeByte
  let bytes ← peek length
  advance length
  return bytes

/-- The fields of a document, cut out by its length prefix and without the closing zero. -/
def readFrame : Walk Bytes := do
  ensure 4
  let declared := LittleEndian.decodeSigned (← take 4)
  if declared < minLength then refuse (.invalidLength declared)
  let length ← minus declared.toNat 4
  ensure length
  let body ← take length
  let (fields, terminator) ← cut (← minus body.length 1) body
  if (← byteAt terminator 0) ≠ 0 then refuse (.invalidLength declared)
  return fields

/-- A number in `n` bytes. -/
def readNumber (n : Nat) : Walk Nat := do
  ensure n
  return LittleEndian.decode (← take n)

/-- A value of the given type; `embedded` reads a document inside this one. -/
def readValue (embedded : Walk Document) (type : UInt8) (key : String) : Walk Value :=
  match ValueType.ofByte? type with
  | some .double => return .double ⟨UInt64.ofNat (← readNumber 8)⟩
  | some .text => return .text (← readText)
  | some .document => return .document (← embedded)
  | some .binary => return .binary (← readBinary)
  | some .bool => do
    ensure 1
    return .bool ((← takeByte) != 0)
  | some .null => return .null
  | some .int32 => return .int32 (UInt32.ofNat (← readNumber 4)).toInt32
  | some .int64 => return .int64 (UInt64.ofNat (← readNumber 8)).toInt64
  | none => refuse (.unsupportedType type key)

/-- One round over the fields. -/
def readField (value : UInt8 → String → Walk Value) : Walk (String × Value) := do
  let type ← takeByte
  let key ← readKey
  return (key, ← value type key)

/-- The fields that fill a body. -/
def readFields (value : UInt8 → String → Walk Value) (body : Bytes) : Except Halt Document :=
  if body.isEmpty then .ok .empty
  else do
    let ((key, value'), rest) ← (readField value).run body
    if _h : rest.length < body.length then
      let fields ← readFields value rest
      .ok (.field key value' fields)
    else .error .idle
termination_by body.length

/-- A document at a depth, the outermost being at depth zero. -/
def readDocument (depth : Nat) : Walk Document :=
  if _h : maxDepth + 1 < depth then throw (.strayed depth)
  else do
    if maxDepth < depth then refuse (.tooDeep maxDepth)
    let fields ← readFrame
    readFields (readValue (readDocument (depth + 1))) fields
termination_by maxDepth + 2 - depth

/-- The document that the bytes hold, with nothing behind it. -/
def decode (input : Bytes) : Except Halt Document := do
  let (d, rest) ← (readDocument 0).run input
  if rest.isEmpty then .ok d else .error (.refused (.invalidLength (signed input.length)))

end Walk

end SaslClient
