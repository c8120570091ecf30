import SaslClient.Metadata.KeyDocument
import SaslClient.Proofs.Json.Record

/-!
# Reading key documents

Main results:

* `endpoint_of_parse`: a key document knows the endpoint that served it.
* `parse_text`: every key document is read from some text, whichever of its fields are there.
-/

namespace SaslClient.Metadata.KeyDocument

/-- A key document knows the endpoint that served it. -/
theorem endpoint_of_parse {answer : Answer} {d : KeyDocument} (h : parse answer = .ok d) :
    d.endpoint = answer.endpoint := by
  obtain ⟨filled, hfinish⟩ := Json.makes_of_parseRecord (Except.mapError_eq_ok_iff.mp h)
  cases hfinish
  rfl

theorem require_of_some (d : KeyDocument) (field : KeyField) {value : String}
    (h : d.value? field = some value) : d.require field = .ok value := by
  rw [require, h]

theorem require_of_none (d : KeyDocument) (field : KeyField) (h : d.value? field = none) :
    d.require field = .error (.credentialSource d.endpoint (.missingField field)) := by
  rw [require, h]

/-- A text for a key document, with `null` for a field that is missing. -/
def text (d : KeyDocument) : String :=
  "\x7b" ++
    Json.member KeyField.accessKeyId.name (Json.quoteOption d.accessKeyId) ++ "," ++
    Json.member KeyField.secretAccessKey.name (Json.quoteOption d.secretAccessKey) ++ "," ++
    Json.member KeyField.token.name (Json.quoteOption d.token) ++ "\x7d"

/-- The text between the brackets, as it is read: each member behind its separator. -/
def written (d : KeyDocument) : Bytes :=
  let member (field : KeyField) :=
    Utf8.encode (Json.member field.name (Json.quoteOption (d.value? field)))
  Json.separator true ++ (member .accessKeyId ++
    (Json.separator false ++ (member .secretAccessKey ++
      (Json.separator false ++ (member .token ++ [0x7D])))))

theorem encode_text (d : KeyDocument) : Utf8.encode d.text = 0x7B :: d.written := by
  have hopen : Utf8.encode "\x7b" = [0x7B] := by decide
  have hcomma : Utf8.encode "," = Json.separator false := by decide
  have hclose : Utf8.encode "\x7d" = [0x7D] := by decide
  have hfirst : Json.separator true = [] := rfl
  simp only [text, written, Utf8.encode_append, hopen, hcomma, hclose, hfirst, value?,
    List.append_assoc, List.nil_append, List.cons_append]

theorem readMembers_written (d : KeyDocument) (rounds : Nat) :
    Json.readMembers (shape d.endpoint) (rounds + 4) true {} d.written = .ok (d, [0x7D]) := by
  have hread (fill : Option String → Draft) (value : Option String) (rest : Bytes) :
      (Json.readOptionalText (Utf8.encode (Json.quoteOption value) ++ rest) >>= fun r =>
        Except.ok (fill r.1, r.2)) = .ok (fill value, rest) := by
    rw [Json.readOptionalText_written]
    rfl
  unfold written
  rw [Json.readMembers_member rfl rfl (hread (fun s => { accessKeyId := some s }) _ _),
    Json.readMembers_member rfl rfl (hread (fun s =>
      { accessKeyId := some d.accessKeyId, secretAccessKey := some s }) _ _),
    Json.readMembers_member rfl rfl (hread (fun s =>
      { accessKeyId := some d.accessKeyId, secretAccessKey := some d.secretAccessKey,
        token := some s }) _ _)]
  exact Json.readMembers_end rfl rounds []

/-- Every key document is read from its text. -/
theorem parse_text (d : KeyDocument) : parse ⟨d.endpoint, d.text⟩ = .ok d := by
  obtain ⟨rounds, hrounds⟩ : ∃ rounds, d.written.length + 1 = rounds + 4 := by
    refine Nat.exists_eq_add_of_le' ?_
    simp only [written, List.length_append, Json.separator]
    simp
    omega
  have hrecord : Json.readRecord (shape d.endpoint) (0x7B :: d.written) = .ok (d, []) := by
    show Json.closeRecord (Json.readMembers (shape d.endpoint) (d.written.length + 1) true {}
      d.written) Json.closeObject Json.passObjectEnd = _
    rw [hrounds, readMembers_written]
    rfl
  unfold parse Json.parseRecord
  rw [Except.mapError_eq_ok_iff, Except.mapError_eq_ok_iff, encode_text, hrecord]
  rfl

end SaslClient.Metadata.KeyDocument
