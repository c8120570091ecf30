import SaslClient.Bytes.LittleEndian
import SaslClient.Document.Basic
import SaslClient.Document.Error
import SaslClient.Text.Utf8

/-!
# Reading documents

A reader takes bytes and gives a value with the bytes that are left. Lengths are checked before
anything is cut off, the type byte and key of a field before its value. An embedded document spends
one level of nesting; a document below the last level is refused unread.

`Document.decode` reads bytes that hold one document and nothing else.
-/

namespace SaslClient

/-- How many levels of documents may be embedded below the outermost. -/
def maxDepth : Nat := 100

/-- The least length of a document: the length prefix and the closing zero. -/
def minLength : Nat := 5

/-- The first `n` bytes, and the rest. -/
def readBytes (n : Nat) (bs : Bytes) : Except DocumentError (Bytes × Bytes) :=
  if n ≤ bs.length then .ok (bs.take n, bs.drop n)
  else .error (.truncated (n - bs.length))

/-- A length prefix; a negative one is refused. -/
def readLength (bs : Bytes) : Except DocumentError (Nat × Bytes) := do
  let (digits, rest) ← readBytes 4 bs
  let declared := LittleEndian.decodeSigned digits
  if declared < 0 then .error (.invalidLength declared) else .ok (declared.toNat, rest)

/-- The text that ends before the first zero byte. -/
def readKey (bs : Bytes) : Except DocumentError (String × Bytes) :=
  match bs.dropWhile (· != 0) with
  | [] => .error (.truncated 1)
  | _ :: rest =>
    match Utf8.decode (bs.takeWhile (· != 0)) with
    | some key => .ok (key, rest)
    | none => .error .invalidUtf8

/-- A text behind its length; the length counts a last byte that is not part of the text. -/
def readText (bs : Bytes) : Except DocumentError (String × Bytes) := do
  let (length, rest) ← readLength bs
  if length = 0 then .error (.invalidLength 0)
  else
    let (raw, rest) ← readBytes length rest
    match Utf8.decode (raw.take (length - 1)) with
    | some s => .ok (s, rest)
    | none => .error .invalidUtf8

/-- Bytes behind their length and a subtype, which is not kept. -/
def readBinary (bs : Bytes) : Except DocumentError (Bytes × Bytes) := do
  let (length, rest) ← readLength bs
  let (raw, rest) ← readBytes (length + 1) rest
  .ok (raw.drop 1, rest)

/-- The fields of a document, cut out by its length prefix and without the closing zero. -/
def readFrame (bs : Bytes) : Except DocumentError (Bytes × Bytes) := do
  let (digits, rest) ← readBytes 4 bs
  let declared := LittleEndian.decodeSigned digits
  if declared < minLength then .error (.invalidLength declared)
  else
    let (body, rest) ← readBytes (declared.toNat - 4) rest
    if body.getLast? = some 0 then .ok (body.dropLast, rest) else .error (.invalidLength declared)

/-- A value of the given type; `embedded` reads a document inside this one. -/
def readValue (embedded : Bytes → Except DocumentError (Document × Bytes)) (type : UInt8)
    (key : String) (bs : Bytes) : Except DocumentError (Value × Bytes) :=
  match ValueType.ofByte? type with
  | some .double => do
    let (raw, rest) ← readBytes 8 bs
    .ok (.double ⟨UInt64.ofNat (LittleEndian.decode raw)⟩, rest)
  | some .text => do
    let (s, rest) ← readText bs
    .ok (.text s, rest)
  | some .document => do
    let (fields, rest) ← embedded bs
    .ok (.document fields, rest)
  | some .binary => do
    let (bytes, rest) ← readBinary bs
    .ok (.binary bytes, rest)
  | some .bool => do
    let (raw, rest) ← readBytes 1 bs
    .ok (.bool (raw != [0]), rest)
  | some .null => .ok (.null, bs)
  | some .int32 => do
    let (raw, rest) ← readBytes 4 bs
    .ok (.int32 (UInt32.ofNat (LittleEndian.decode raw)).toInt32, rest)
  | some .int64 => do
    let (raw, rest) ← readBytes 8 bs
    .ok (.int64 (UInt64.ofNat (LittleEndian.decode raw)).toInt64, rest)
  | none => .error (.unsupportedType type key)

/-- The fields that fill a body. Every field takes two bytes at least, so a body of `n` bytes needs
no more than `n` rounds. -/
def readFields (embedded : Bytes → Except DocumentError (Document × Bytes)) :
    (rounds : Nat) → Bytes → Except DocumentError Document
  | _, [] => .ok .empty
  | 0, _ :: _ => .error (.truncated 0)
  | rounds + 1, type :: bs => do
    let (key, bs) ← readKey bs
    let (value, bs) ← readValue embedded type key bs
    let rest ← readFields embedded rounds bs
    .ok (.field key value rest)

/-- A document that may use `levels` levels, its own included. -/
def readDocument : (levels : Nat) → Bytes → Except DocumentError (Document × Bytes)
  | 0, _ => .error (.tooDeep maxDepth)
  | levels + 1, bs => do
    let (body, rest) ← readFrame bs
    let fields ← readFields (readDocument levels) body.length body
    .ok (fields, rest)

/-- The document that the bytes hold, with nothing behind it. -/
def Document.decode (bs : Bytes) : Except DocumentError Document := do
  let (d, rest) ← readDocument (maxDepth + 1) bs
  if rest.isEmpty then .ok d else .error (.invalidLength bs.length)

end SaslClient
