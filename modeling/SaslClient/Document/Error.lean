import SaslClient.Text.Quoted

/-!
# Document errors

Why bytes are no document, or why a field cannot be had.
-/

namespace SaslClient

/-- The kind of value that a caller asks a field for. `named` stands for a kind that this library
does not ask for itself. -/
inductive FieldKind where
  | text
  | binary
  | int32
  | bool
  | number
  | named (name : String)
deriving DecidableEq, Repr

/-- The name of a kind in messages. -/
def FieldKind.name : FieldKind → String
  | .text => "string"
  | .binary => "binary"
  | .int32 => "32-bit integer"
  | .bool => "boolean"
  | .number => "number"
  | .named name => name

/-- Why a document could not be read, or a field not be had. -/
inductive DocumentError where
  /-- The input ends `needed` bytes too early. -/
  | truncated (needed : Nat)
  /-- A length prefix that no value can have, or an input longer than its document. -/
  | invalidLength (declared : Int)
  /-- A type byte without a meaning. -/
  | unsupportedType (type : UInt8) (key : String)
  /-- A key or text that is not UTF-8. -/
  | invalidUtf8
  /-- More than `limit` levels of embedded documents. -/
  | tooDeep (limit : Nat)
  /-- No field has the key. -/
  | missingField (key : String)
  /-- The field holds a value of another kind. -/
  | fieldType (key : String) (expected : FieldKind)
deriving DecidableEq, Repr

/-- A byte as two hexadecimal digits. -/
private def byteDigits (b : UInt8) : String :=
  Hex.encode [b]

/-- The wording of a document error. -/
def DocumentError.message : DocumentError → String
  | .truncated needed => "truncated document: needed " ++ toString needed ++ " more bytes"
  | .invalidLength declared => "invalid document length: " ++ toString declared
  | .unsupportedType type key =>
    "unsupported element type 0x" ++ byteDigits type ++ " for field `" ++ key ++ "`"
  | .invalidUtf8 => "invalid UTF-8 in document"
  | .tooDeep limit => "document nesting exceeds " ++ toString limit ++ " levels"
  | .missingField key => "missing field `" ++ key ++ "`"
  | .fieldType key expected => "field `" ++ key ++ "` is not a " ++ expected.name

end SaslClient
