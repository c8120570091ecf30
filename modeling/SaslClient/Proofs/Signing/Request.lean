import SaslClient.Proofs.Signing.StringToSign

/-!
# The request, written out

The canonical form of a request is built for any header fields: they are collected by name, sorted,
filtered and joined. For the one request that is ever signed all of this comes to one fixed text, in
which only the host, the time, the session token and the nonce vary. The text is written out here,
and with it the names of the signed fields, the text to sign and the chain of keys.

Main results:

* `SigningInput.canonicalRequest_eq_written`: the canonical form is the text that is written out,
  for any input.
* `Authorization.sign_fixed_request`: when signing succeeds, with which error it fails, and what is
  signed with which key.
-/

namespace SaslClient

/-! ## Hexadecimal digits -/

/-- Hexadecimal text is in lower case. -/
theorem Hex.mem_lowerDigits {bs : Bytes} {c : Char} (h : c ∈ Hex.digits bs) :
    c ∈ "0123456789abcdef".toList := by
  have hall : ∀ n < 16, Hex.digit n ∈ "0123456789abcdef".toList := by decide
  obtain ⟨b, -, hc⟩ := List.mem_flatMap.mp h
  have hb := b.toNat_lt
  rw [List.mem_cons, List.mem_singleton] at hc
  rcases hc with rfl | rfl
  · exact hall _ (by omega)
  · exact hall _ (by omega)

/-! ## Timestamps -/

namespace Signing

/-- The timestamp is this date, `T`, a time and `Z`: eight and six ASCII digits. -/
def IsDated (timestamp date : String) : Prop :=
  ∃ time : String, timestamp = date ++ "T" ++ time ++ "Z" ∧ date.length = 8 ∧ time.length = 6 ∧
    ∀ c ∈ date.toList ++ time.toList, '0' ≤ c ∧ c ≤ '9'

theorem dateOf?_eq_some_iff_isDated {timestamp date : String} :
    dateOf? timestamp = some date ↔ IsDated timestamp date := by
  have hdigit (c : Char) : Text.isDigit c = true ↔ '0' ≤ c ∧ c ≤ '9' := by simp [Text.isDigit]
  rw [dateOf?_eq_some_iff]
  constructor
  · rintro ⟨time, htimestamp, hdate, htime, hdigits⟩
    refine ⟨String.ofList time, String.toList_inj.mp ?_, hdate, ?_, ?_⟩
    · simp [htimestamp]
    · rw [String.length_ofList, htime]
    · intro c hc
      rw [String.toList_ofList] at hc
      exact (hdigit c).mp (hdigits c hc)
  · rintro ⟨time, rfl, hdate, htime, hdigits⟩
    refine ⟨time.toList, by simp, hdate, htime, ?_⟩
    intro c hc
    exact (hdigit c).mpr (hdigits c hc)

theorem dateOf?_eq_none_iff {timestamp : String} :
    dateOf? timestamp = none ↔ ¬ ∃ date, IsDated timestamp date := by
  rw [Option.eq_none_iff_forall_ne_some, not_exists]
  exact forall_congr' fun date => not_congr dateOf?_eq_some_iff_isDated

/-- A timestamp holds no blanks. -/
theorem IsDated.isBlank_of_mem {timestamp date : String} (h : IsDated timestamp date) :
    ∀ c ∈ timestamp.toList, Text.isBlank c = false := by
  obtain ⟨time, rfl, -, -, hdigits⟩ := h
  have hdigit : ∀ c ∈ date.toList ++ time.toList, Text.isBlank c = false := by
    intro c hc
    obtain ⟨hlow, hhigh⟩ : 48 ≤ c.toNat ∧ c.toNat ≤ 57 := hdigits c hc
    simp only [Text.isBlank, Bool.or_eq_false_iff, Bool.and_eq_false_iff, decide_eq_false_iff_not,
      beq_eq_false_iff_ne]
    omega
  obtain ⟨hdate, htime⟩ := List.forall_mem_append.mp hdigit
  have hletter : "T".toList = ['T'] ∧ "Z".toList = ['Z'] := ⟨rfl, rfl⟩
  simp only [String.toList_append, List.forall_mem_append, hletter, List.forall_mem_singleton]
  exact ⟨⟨⟨hdate, rfl⟩, htime⟩, rfl⟩

/-! ## Scopes and texts to sign -/

theorem scope_eq (date region : String) :
    scope date region = date ++ "/" ++ region ++ "/sts/aws4_request" := by
  simp only [scope, service, scopeSuffix, String.intercalate_cons_cons,
    String.intercalate_singleton, String.append_assoc, String.reduceAppend]

theorem stringToSign_eq (timestamp scope hash : String) :
    stringToSign timestamp scope hash =
      "AWS4-HMAC-SHA256\n" ++ timestamp ++ "\n" ++ scope ++ "\n" ++ hash := by
  simp only [stringToSign, algorithm, String.intercalate_cons_cons, String.intercalate_singleton,
    ← String.append_assoc, String.reduceAppend]

end Signing

/-! ## The request -/

namespace SigningInput

/-- The names of the signed header fields, between semicolons. -/
def writtenNames (i : SigningInput) : String :=
  "content-length;content-type;host;x-amz-date;" ++
    (if i.sessionToken.isSome then "x-amz-security-token;" else "") ++
    "x-mongodb-gs2-cb-flag;x-mongodb-server-nonce"

/-- The canonical form of the request: a line for each header field, with the host, the time and the
session token in their normal forms, a blank line, the names, and the hash of the body. -/
def written (i : SigningInput) : String :=
  "POST\n/\n\n" ++
    "content-length:43\n" ++
    "content-type:application/x-www-form-urlencoded\n" ++
    "host:" ++ Text.normalize i.host ++ "\n" ++
    "x-amz-date:" ++ Text.normalize i.timestamp ++ "\n" ++
    (match i.sessionToken with
      | some token => "x-amz-security-token:" ++ Text.normalize token ++ "\n"
      | none => "") ++
    "x-mongodb-gs2-cb-flag:n\nx-mongodb-server-nonce:" ++ Base64.encode i.serverNonce ++ "\n" ++
    "\n" ++
    i.writtenNames ++ "\n" ++
    "ab821ae955788b0e33ebd34c208442ccfc2d406e2edc5e7a39bd6458fbb4f843"

theorem signedNames_eq_written (i : SigningInput) :
    Headers.signedNames i.signed = i.writtenNames := by
  rw [Headers.signedNames, sortNames_signed, signed_eq]
  unfold writtenNames
  generalize i.sessionToken.isSome = withToken
  cases withToken <;> decide +kernel

theorem payloadHash_canonicalRequest (i : SigningInput) :
    i.canonicalRequest.payloadHash =
      "ab821ae955788b0e33ebd34c208442ccfc2d406e2edc5e7a39bd6458fbb4f843" := by
  show Signing.payloadHash (Utf8.encode Signing.requestBody) = _
  decide +kernel

/-- The general construction comes to the text that is written out. -/
theorem canonicalRequest_eq_written (i : SigningInput) : i.canonicalRequest.text = i.written := by
  have hlength : Headers.line ⟨"content-length", "43"⟩ = "content-length:43" := by decide +kernel
  have htype : Headers.line ⟨"content-type", "application/x-www-form-urlencoded"⟩ =
      "content-type:application/x-www-form-urlencoded" := by decide +kernel
  have hflag : Headers.line ⟨"x-mongodb-gs2-cb-flag", "n"⟩ = "x-mongodb-gs2-cb-flag:n" := by
    decide +kernel
  have hfield (name value : String) :
      Headers.line ⟨name, value⟩ = name ++ ":" ++ Text.normalize value := rfl
  rw [text_canonicalRequest, requestLines, signedNames_eq_written, payloadHash_canonicalRequest]
  unfold headers Signing.requestHeaders written
  cases i.sessionToken <;>
    simp only [List.map_cons, List.map_nil, List.cons_append, List.nil_append, hlength, htype,
      hflag, hfield, normalize_base64, String.intercalate_cons_cons, String.intercalate_singleton,
      String.append_empty, String.reduceAppend, ← String.append_assoc]

end SigningInput

namespace Authorization

/-- **What is signed.** Signing succeeds if and only if the access key id is not empty, the
timestamp is made of eight digits, `T`, six digits and `Z`, and a region can be read off the host;
otherwise the error is that of the first of these that does not hold. The canonical request is the
text that is written out, whatever the host, the time, the session token and the nonce are. A
signature is made over the algorithm, the time, the scope and the hash of this text, in lower-case
digits, with the key that the secret key, the date, the region and the service lead to; the header
lists the names that are written out. -/
theorem sign_fixed_request (i : SigningInput) :
    ((∃ a, sign i = .ok a) ↔
      i.accessKeyId ≠ "" ∧ (∃ date, Signing.IsDated i.timestamp date) ∧
        ∃ region, Region.ofHost i.host = .ok region) ∧
    (∀ e, sign i = .error e ↔
      i.accessKeyId = "" ∧ e = .emptyAccessKeyId ∨
      i.accessKeyId ≠ "" ∧ (¬ ∃ date, Signing.IsDated i.timestamp date) ∧
        e = .invalidTimestamp i.timestamp ∨
      i.accessKeyId ≠ "" ∧ (∃ date, Signing.IsDated i.timestamp date) ∧
        Region.ofHost i.host = .error e) ∧
    i.canonicalRequest.text = i.written ∧
    ∀ a, sign i = .ok a → ∃ date region, Signing.IsDated i.timestamp date ∧
      Region.ofHost i.host = .ok region ∧ Text.normalize i.timestamp = i.timestamp ∧
      a.accessKeyId = i.accessKeyId ∧ a.scope = date ++ "/" ++ region ++ "/sts/aws4_request" ∧
      a.signedHeaders = i.writtenNames ∧
      a.signature =
        Hex.encode (Hmac.sha256
          (([date, region, "sts", "aws4_request"].map Utf8.encode).foldl Hmac.sha256
            (Utf8.encode ("AWS4" ++ i.secretKey)))
          (Utf8.encode ("AWS4-HMAC-SHA256\n" ++ i.timestamp ++ "\n" ++ a.scope ++ "\n" ++
            Hex.encode (Sha256.digest (Utf8.encode i.written))))) ∧
      a.signature.length = 64 ∧ ∀ c ∈ a.signature.toList, c ∈ "0123456789abcdef".toList := by
  have hempty : i.accessKeyId.isEmpty = true ↔ i.accessKeyId = "" := String.isEmpty_iff
  have hnonempty : i.accessKeyId.isEmpty = false ↔ i.accessKeyId ≠ "" := by simp
  refine ⟨?_, ?_, i.canonicalRequest_eq_written, ?_⟩
  · simp only [sign_eq_ok_iff, Signing.dateOf?_eq_some_iff_isDated, hnonempty]
    constructor
    · rintro ⟨_, hid, date, region, hdate, hregion, -⟩
      exact ⟨hid, ⟨date, hdate⟩, region, hregion⟩
    · rintro ⟨hid, ⟨date, hdate⟩, region, hregion⟩
      exact ⟨_, hid, date, region, hdate, hregion, rfl⟩
  · intro e
    rw [sign_eq_error_iff]
    simp only [Signing.dateOf?_eq_some_iff_isDated, Signing.dateOf?_eq_none_iff, hempty, hnonempty]
  · intro a h
    obtain ⟨-, date, region, hdate, hregion, rfl⟩ := sign_eq_ok_iff.mp h
    have hdated := Signing.dateOf?_eq_some_iff_isDated.mp hdate
    refine ⟨date, region, hdated, hregion, Text.normalize_of_forall hdated.isBlank_of_mem, rfl,
      Signing.scope_eq date region, i.signedNames_eq_written, ?_, length_signature i date region,
      ?_⟩
    · rw [← i.canonicalRequest_eq_written]
      exact congrArg (Signing.signature _) (Signing.stringToSign_eq _ _ _)
    · intro c hc
      rw [compute, Signing.signature, Hex.toList_encode] at hc
      exact Hex.mem_lowerDigits hc

end Authorization

end SaslClient
