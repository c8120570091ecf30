import SaslClient.Bytes.Basic

/-!
# JSON faults

A fault says what kind of thing went wrong and how much of the text was consumed when it showed. The
place is kept as the bytes that were left, and turned into a line and a column against the whole
text.
-/

namespace SaslClient.Json

/-- What kind of fault. -/
inductive Category where
  /-- The text is not JSON. -/
  | malformed
  /-- The text is JSON so far, but not the data asked for. -/
  | mismatch
  /-- The text ends too early. -/
  | ended
deriving DecidableEq, Repr

/-- The name of a category in messages. -/
def Category.name : Category → String
  | .malformed => "Syntax"
  | .mismatch => "Data"
  | .ended => "Eof"

/-- A fault, with the bytes that were not yet consumed. -/
structure Fault where
  category : Category
  rest : Bytes
deriving DecidableEq, Repr

/-- A fault at the next byte, which counts as consumed. -/
def Fault.ahead (category : Category) (rest : Bytes) : Fault :=
  ⟨category, rest.drop 1⟩

/-- A place in a text: the line, counted from one, and the number of bytes of that line that were
consumed. -/
structure Location where
  line : Nat
  column : Nat
deriving DecidableEq, Repr

/-- The place where `rest` is left of a text. -/
def Location.of (text rest : Bytes) : Location :=
  let consumed := text.take (text.length - rest.length)
  ⟨1 + consumed.count 10, (consumed.reverse.takeWhile (· != 10)).length⟩

end SaslClient.Json
