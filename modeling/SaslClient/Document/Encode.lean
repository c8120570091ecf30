import SaslClient.Bytes.LittleEndian
import SaslClient.Document.Basic
import SaslClient.Text.Utf8

/-!
# Writing documents

The binary form of a document: its whole length in four bytes, its fields, and a closing zero. A
field is a type byte, the key closed by a zero, and the value. Length prefixes keep the low 32 bits
of the length.
-/

namespace SaslClient

/-- The subtype written for binary values. -/
def genericSubtype : UInt8 := 0

/-- The fields of a document with the length in front and the zero behind. -/
def frame (fields : Bytes) : Bytes :=
  LittleEndian.encode 4 (fields.length + 5) ++ fields ++ [0]

@[simp] theorem length_frame (fields : Bytes) : (frame fields).length = fields.length + 5 := by
  simp only [frame, List.length_append, LittleEndian.length_encode, List.length_singleton]
  omega

mutual

/-- The bytes of a value, without its type byte. -/
def Value.encode : Value → Bytes
  | .double d => LittleEndian.encode 8 d.bits.toNat
  | .text s =>
    LittleEndian.encode 4 ((Utf8.encode s).length + 1) ++ Utf8.encode s ++ [0]
  | .document fields => frame fields.encodeFields
  | .binary bytes => LittleEndian.encode 4 bytes.length ++ genericSubtype :: bytes
  | .bool b => [if b then 1 else 0]
  | .null => []
  | .int32 n => LittleEndian.encode 4 n.toUInt32.toNat
  | .int64 n => LittleEndian.encode 8 n.toUInt64.toNat

/-- The bytes of the fields, one after the other. -/
def Document.encodeFields : Document → Bytes
  | .empty => []
  | .field key value rest =>
    value.type.byte :: (Utf8.encode key ++ 0 :: (value.encode ++ rest.encodeFields))

end

/-- The binary form of a document. -/
def Document.encode (d : Document) : Bytes :=
  frame d.encodeFields

end SaslClient
