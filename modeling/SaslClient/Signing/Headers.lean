import SaslClient.Text.Blank
import SaslClient.Text.Case

/-!
# Canonical headers

The form in which header fields enter a signature. Names are lower-cased, values normalized, and the
values of fields with one name joined by commas in the order given. The block lists the signed names
in byte order, one line each, and leaves out names that no field has.
-/

namespace SaslClient

/-- A header field. -/
structure Header where
  name : String
  value : String
deriving DecidableEq, Repr

namespace Headers

/-- Header values by lower-case name. -/
abbrev Combined := List (String × String)

/-- Adds a value under a name, behind a comma if the name is there already. -/
def addValue (name value : String) : Combined → Combined
  | [] => [(name, value)]
  | (n, v) :: rest =>
    if n = name then (n, v ++ "," ++ value) :: rest else (n, v) :: addValue name value rest

/-- The normalized values of the fields by lower-case name. -/
def combine (headers : List Header) : Combined :=
  headers.foldl (fun c h => addValue (Text.lowercase h.name) (Text.normalize h.value) c) []

/-- Names in byte order, repeated ones included. -/
def sortNames (names : List String) : List String :=
  names.mergeSort fun a b => decide (a ≤ b)

/-- The lines of the canonical block. -/
def canonicalLines (headers : List Header) (signed : List String) : List String :=
  let combined := combine headers
  (sortNames signed).filterMap fun name =>
    (combined.lookup name).map fun value => name ++ ":" ++ value

/-- The canonical block, without a line break at the end. -/
def canonical (headers : List Header) (signed : List String) : String :=
  "\n".intercalate (canonicalLines headers signed)

/-- The signed names in byte order, between semicolons. -/
def signedNames (signed : List String) : String :=
  ";".intercalate (sortNames signed)

end Headers

end SaslClient
