import SaslClient.Except
import SaslClient.Signing.Authorization

/-!
# When signing succeeds, and what a header says

Signing fails on an empty access key id, on a timestamp of another form and on a host without a
region, in this order, and on nothing else. The header that it gives lists the signed names between
its last equals sign but one and its signature, so they can be read back from the text alone,
whatever stands in the access key id and in the region.

Main results:

* `sign_eq_ok_iff`, `sign_eq_error_iff`: the exact domain of signing, and its errors in order.
* `sortNames_signed`: the header fields of the request are already in byte order.
* `listedNames_header`: the names that a header lists are those of the signed header fields.
* `mem_signed_securityToken`: the session token is signed if and only if there is one.
-/

namespace SaslClient

/-! ## The names of the signed header fields -/

/-- The name of the header field that carries a session token. -/
def Signing.tokenHeader : String := "x-amz-security-token"

namespace SigningInput

theorem signed_eq (i : SigningInput) :
    i.signed =
      ["content-length", "content-type", "host", "x-amz-date"] ++
        (if i.sessionToken.isSome then [Signing.tokenHeader] else []) ++
        ["x-mongodb-gs2-cb-flag", "x-mongodb-server-nonce"] := by
  unfold signed headers Signing.requestHeaders
  cases i.sessionToken <;> rfl

/-- The session token is among the signed header fields if and only if there is one. -/
theorem mem_signed_securityToken (i : SigningInput) :
    Signing.tokenHeader ∈ i.signed ↔ i.sessionToken.isSome = true := by
  rw [signed_eq]
  cases i.sessionToken with
  | none => simp [Signing.tokenHeader]
  | some token => simp

/-- The header fields of the request stand in byte order of their names. -/
theorem sortNames_signed (i : SigningInput) : Headers.sortNames i.signed = i.signed := by
  apply List.mergeSort_of_pairwise
  rw [signed_eq]
  split <;> decide

/-- No name of a signed header field holds the sign that a header puts between names. -/
theorem not_mem_of_mem_signed {i : SigningInput} {name : String} (h : name ∈ i.signed) :
    ';' ∉ name.toList := by
  have hall : ∀ name ∈ i.signed, ';' ∉ name.toList := by
    rw [signed_eq]
    split <;> decide
  exact hall name h

end SigningInput

namespace Authorization

/-! ## The domain of signing -/

theorem sign_eq_ok_iff {i : SigningInput} {a : Authorization} :
    sign i = .ok a ↔
      i.accessKeyId.isEmpty = false ∧ ∃ date region, Signing.dateOf? i.timestamp = some date ∧
        Region.ofHost i.host = .ok region ∧ compute i date region = a := by
  unfold sign
  cases i.accessKeyId.isEmpty <;> cases Signing.dateOf? i.timestamp <;>
    cases Region.ofHost i.host <;> simp

theorem sign_eq_error_iff {i : SigningInput} {e : SigningError} :
    sign i = .error e ↔
      i.accessKeyId.isEmpty = true ∧ e = .emptyAccessKeyId ∨
      i.accessKeyId.isEmpty = false ∧ Signing.dateOf? i.timestamp = none ∧
        e = .invalidTimestamp i.timestamp ∨
      i.accessKeyId.isEmpty = false ∧ (∃ date, Signing.dateOf? i.timestamp = some date) ∧
        Region.ofHost i.host = .error e := by
  unfold sign
  cases i.accessKeyId.isEmpty <;> cases Signing.dateOf? i.timestamp <;>
    cases Region.ofHost i.host <;> simp [eq_comm]

/-- A signed header is computed for the access key id and the names that were given. -/
theorem eq_compute_of_sign {i : SigningInput} {a : Authorization} (h : sign i = .ok a) :
    ∃ date region, a = compute i date region := by
  obtain ⟨-, date, region, -, -, rfl⟩ := sign_eq_ok_iff.mp h
  exact ⟨date, region, rfl⟩

/-! ## Reading the signed names back -/

/-- The number of characters behind the names in a header: a comma, a space, `Signature=` and the
digits of a signature. -/
def tailLength : Nat := 76

/-- The names that the text of a header lists as signed: what stands between the equals sign in
front of them and the signature. -/
def listedNames (header : String) : List String :=
  let names := ((header.toList.reverse.drop tailLength).takeWhile (· != '=')).reverse
  (names.splitOn ';').map String.ofList

theorem length_signature (i : SigningInput) (date region : String) :
    (compute i date region).signature.toList.length = 64 := by
  simp [compute, Signing.signature, Signing.keyedHash]

theorem signedHeaders_compute (i : SigningInput) (date region : String) :
    (compute i date region).signedHeaders.toList =
      [';'].intercalate (i.signed.map String.toList) := by
  show (";".intercalate (Headers.sortNames i.signed)).toList = _
  rw [SigningInput.sortNames_signed, String.toList_intercalate]
  rfl

theorem equals_not_mem_signedHeaders (i : SigningInput) (date region : String) :
    '=' ∉ (compute i date region).signedHeaders.toList := by
  rw [signedHeaders_compute, SigningInput.signed_eq]
  split <;> decide

/-- Cutting a header in front of its signature leaves the names at the end. -/
theorem names_of_header (i : SigningInput) (date region : String) :
    (((compute i date region).header.toList.reverse.drop tailLength).takeWhile (· != '=')).reverse =
      (compute i date region).signedHeaders.toList := by
  have hsignature := length_signature i date region
  have hnames := equals_not_mem_signedHeaders i date region
  generalize compute i date region = a at hsignature hnames ⊢
  -- the header ends with an equals sign, the names and the signature part
  obtain ⟨front, hfront⟩ : ∃ front : List Char,
      a.header.toList = front ++ '=' ::
        (a.signedHeaders.toList ++ (", Signature=".toList ++ a.signature.toList)) := by
    refine ⟨(Signing.algorithm ++ " Credential=" ++ a.accessKeyId ++ "/" ++ a.scope ++
      ", SignedHeaders").toList, ?_⟩
    unfold header
    simp
  have htail : (", Signature=".toList ++ a.signature.toList).reverse.length = tailLength := by
    simp [hsignature, tailLength]
  have hstop : ∀ c ∈ a.signedHeaders.toList.reverse, (c != '=') = true := by
    intro c hc
    rw [bne_iff_ne]
    rintro rfl
    exact hnames (List.mem_reverse.mp hc)
  rw [hfront, List.reverse_append, List.reverse_cons, List.reverse_append, List.append_assoc,
    List.append_assoc, List.drop_left' htail, List.takeWhile_append_of_pos hstop]
  simp

/-- The text of a header lists exactly the names of the signed header fields, in order. -/
theorem listedNames_header (i : SigningInput) (date region : String) :
    listedNames (compute i date region).header = i.signed := by
  have hne : i.signed.map String.toList ≠ [] := by simp [SigningInput.signed_eq]
  have hsep : ∀ name ∈ i.signed.map String.toList, ';' ∉ name := by
    intro name hname
    obtain ⟨s, hs, rfl⟩ := List.mem_map.mp hname
    exact SigningInput.not_mem_of_mem_signed hs
  unfold listedNames
  simp only [names_of_header, signedHeaders_compute]
  rw [List.splitOn_intercalate ';' hsep hne, List.map_map]
  simp

end Authorization

end SaslClient
