import SaslClient.Json.Record
import SaslClient.Metadata.Client

/-!
# Key documents

The JSON document in which an endpoint serves keys. Each of its fields may be missing; asking for a
missing one is an error that names the field and the endpoint.
-/

namespace SaslClient.Metadata

/-- The fields of a key document, and where it was served. -/
structure KeyDocument where
  endpoint : String
  accessKeyId : Option String
  secretAccessKey : Option String
  token : Option String
deriving DecidableEq, Repr

namespace KeyDocument

/-- A key document that is being read. A field read as `null` is filled with nothing. -/
structure Draft where
  accessKeyId : Option (Option String) := none
  secretAccessKey : Option (Option String) := none
  token : Option (Option String) := none

/-- How a key document is read: an object with any fields besides its own, or a list of the three
values. -/
def shape (endpoint : String) : Json.Shape Draft KeyDocument where
  start := {}
  fields := [
    { name := KeyField.accessKeyId.name
      isFilled := (·.accessKeyId.isSome)
      read := fun d bs => do
        let (s, rest) ← Json.readOptionalText bs
        .ok ({ d with accessKeyId := some s }, rest) },
    { name := KeyField.secretAccessKey.name
      isFilled := (·.secretAccessKey.isSome)
      read := fun d bs => do
        let (s, rest) ← Json.readOptionalText bs
        .ok ({ d with secretAccessKey := some s }, rest) },
    { name := KeyField.token.name
      isFilled := (·.token.isSome)
      read := fun d bs => do
        let (s, rest) ← Json.readOptionalText bs
        .ok ({ d with token := some s }, rest) }]
  skipsOthers := true
  finish := fun d => some
    { endpoint := endpoint
      accessKeyId := d.accessKeyId.join
      secretAccessKey := d.secretAccessKey.join
      token := d.token.join }

/-- Reads a key document. An error tells the place in the document but nothing of its text. -/
def parse (answer : Answer) : Except AuthError KeyDocument :=
  (Json.parseRecord (shape answer.endpoint) answer.body).mapError fun (category, location) =>
    .credentialSource answer.endpoint (.malformed category location)

/-- The value of a field, if it has one. -/
def value? (d : KeyDocument) : KeyField → Option String
  | .accessKeyId => d.accessKeyId
  | .secretAccessKey => d.secretAccessKey
  | .token => d.token

/-- The value of a field that is needed. -/
def require (d : KeyDocument) (field : KeyField) : Except AuthError String :=
  match d.value? field with
  | some value => .ok value
  | none => .error (.credentialSource d.endpoint (.missingField field))

end KeyDocument

end SaslClient.Metadata
