import SaslClient.Proofs.Signing.Authorization
import SaslClient.Proofs.Signing.Headers
import SaslClient.Proofs.Text.Join
import SaslClient.Proofs.Text.Normalize

/-!
# What a signature binds

The text to sign is put together from parts that come from elsewhere, among them the host and the
session token, which may hold any characters. It can be taken apart all the same. Its own parts have
fixed lengths except for the region, so they are told apart by counting. The canonical request is
told apart by its lines: every part of it that comes from elsewhere is normalized or written in a
small alphabet, and so holds no line break.

Main results:

* `Signing.stringToSign_inj`: the parts of the text to sign, by their lengths.
* `SigningInput.text_canonicalRequest`: the lines of the canonical request.
* `SigningInput.stringToSign_binds`: equal texts to sign have equal inputs, up to blanks in the host
  and in the session token.
-/

namespace SaslClient

namespace Signing

/-! ## The text to sign -/

/-- A timestamp with a date is that date, `T`, a time of six digits and `Z`. -/
theorem dateOf?_eq_some_iff {timestamp date : String} :
    dateOf? timestamp = some date ↔
      ∃ time : List Char, timestamp.toList = date.toList ++ 'T' :: (time ++ ['Z']) ∧
        date.toList.length = 8 ∧ time.length = 6 ∧ ∀ c ∈ date.toList ++ time, Text.isDigit c := by
  unfold dateOf?
  generalize timestamp.toList = cs
  dsimp only
  constructor
  · intro h
    split at h
    next hcs =>
      cases h
      obtain ⟨hlength, hdate, hT, htime, hZ⟩ := hcs
      obtain ⟨h8, hT⟩ := List.getElem?_eq_some_iff.mp hT
      obtain ⟨h15, hZ⟩ := List.getElem?_eq_some_iff.mp hZ
      refine ⟨(cs.drop 9).take 6, ?_, ?_, ?_, ?_⟩
      · have htail : (cs.drop 9).drop 6 = ['Z'] := by
          rw [List.drop_drop, List.drop_eq_getElem_cons h15, hZ, List.drop_of_length_le (by omega)]
        rw [String.toList_ofList, ← htail, List.take_append_drop, ← hT, ← List.drop_eq_getElem_cons,
          List.take_append_drop]
      · simp [hlength]
      · simp [hlength]
      · rw [String.toList_ofList, List.forall_mem_append]
        exact ⟨List.all_eq_true.mp hdate, List.all_eq_true.mp htime⟩
    next => cases h
  · rintro ⟨time, rfl, hdate, htime, hdigits⟩
    obtain ⟨hdate', htime'⟩ := List.forall_mem_append.mp hdigits
    rw [if_pos, List.take_left' hdate, String.ofList_toList]
    refine ⟨?_, ?_, ?_, ?_, ?_⟩
    · simp [hdate, htime]
    · rw [List.take_left' hdate]
      exact List.all_eq_true.mpr hdate'
    · rw [List.getElem?_append_right (by omega), hdate]
      rfl
    · have htail : (date.toList ++ 'T' :: (time ++ ['Z'])).drop 9 = time ++ ['Z'] := by
        rw [List.append_cons, List.drop_left' (by simp [hdate])]
      rw [htail, List.take_left' htime]
      exact List.all_eq_true.mpr htime'
    · rw [List.getElem?_append_right (by omega), hdate]
      show (time ++ ['Z'])[6]? = some 'Z'
      rw [← htime, List.getElem?_concat_length]

/-- The parts of the text to sign are determined by it, whatever characters the regions hold: all
the other parts have fixed lengths. -/
theorem stringToSign_inj {t t' d d' r r' h h' : String}
    (ht : t.toList.length = t'.toList.length) (hd : d.toList.length = d'.toList.length)
    (hh : h.toList.length = h'.toList.length)
    (heq : stringToSign t (scope d r) h = stringToSign t' (scope d' r') h') :
    t = t' ∧ r = r' ∧ h = h' := by
  have hlist : t.toList ++ ('\n' :: d.toList ++ ('/' :: r.toList ++
        ("/sts/aws4_request\n".toList ++ h.toList))) =
      t'.toList ++ ('\n' :: d'.toList ++ ('/' :: r'.toList ++
        ("/sts/aws4_request\n".toList ++ h'.toList))) := by
    have := congrArg String.toList heq
    simpa [stringToSign, scope, service, scopeSuffix] using this
  -- time and date are cut off at the front and the hash at the back, which leaves the region
  obtain ⟨hts, hlist⟩ := List.append_inj hlist ht
  obtain ⟨-, hlist⟩ := List.append_inj hlist (by simpa using hd)
  obtain ⟨hregion, hlist⟩ := List.append_inj' hlist (by simpa using hh)
  exact ⟨String.toList_injective hts, String.toList_injective (List.tail_eq_of_cons_eq hregion),
    String.toList_injective (List.append_cancel_left hlist)⟩

end Signing

namespace SigningInput

/-! ## The request, line by line -/

/-- The lines of the canonical request. -/
def requestLines (i : SigningInput) : List String :=
  ["POST", "/", ""] ++ (i.headers.map Headers.line ++
    ["", Headers.signedNames i.signed, i.canonicalRequest.payloadHash])

theorem isPlain_of_mem_signed {i : SigningInput} :
    ∀ name ∈ i.signed, ∀ c ∈ name.toList, Text.isPlain c = true := by
  have hall : ∀ name ∈ i.signed, name.toList.all Text.isPlain = true := by
    rw [signed_eq]
    split <;> decide +kernel
  exact fun name hmem => List.all_eq_true.mp (hall name hmem)

theorem newline_notMem_of_mem_signed {i : SigningInput} :
    ∀ name ∈ i.signed, '\n' ∉ name.toList :=
  fun name hmem hnewline => absurd (isPlain_of_mem_signed name hmem _ hnewline) (by decide)

theorem canonicalLines_headers (i : SigningInput) :
    Headers.canonicalLines i.headers i.signed = i.headers.map Headers.line := by
  have hnodup : i.signed.Nodup := by
    rw [signed_eq]
    split <;> decide
  refine Headers.canonicalLines_eq_map ?_ hnodup (sortNames_signed i)
  exact fun h hmem =>
    Text.lowercase_of_forall (isPlain_of_mem_signed h.name (List.mem_map_of_mem hmem))

/-- The header block is no line of its own: its lines are lines of the request. -/
theorem text_canonicalRequest (i : SigningInput) :
    i.canonicalRequest.text = "\n".intercalate i.requestLines := by
  have hne : i.headers.map Headers.line ≠ [] := by simp [headers, Signing.requestHeaders]
  have htext : i.canonicalRequest.text = "\n".intercalate
      (["POST", "/", ""] ++ "\n".intercalate (Headers.canonicalLines i.headers i.signed) ::
        ["", Headers.signedNames i.signed, i.canonicalRequest.payloadHash]) := rfl
  rw [htext, canonicalLines_headers, Text.intercalate_nested _ _ _ hne, requestLines]

theorem newline_notMem_line {i : SigningInput} :
    ∀ h ∈ i.headers, '\n' ∉ (Headers.line h).toList := by
  intro h hmem
  have hname := newline_notMem_of_mem_signed h.name (List.mem_map_of_mem hmem)
  have hvalue := Text.newline_notMem_normalize h.value
  simp [Headers.line, hname, hvalue]

theorem newline_notMem_signedNames (i : SigningInput) :
    '\n' ∉ (Headers.signedNames i.signed).toList := by
  rw [Headers.signedNames, sortNames_signed, String.toList_intercalate]
  refine Text.notMem_intercalate (by decide) ?_
  rw [List.forall_mem_map]
  exact newline_notMem_of_mem_signed

theorem newline_notMem_requestLines (i : SigningInput) :
    ∀ l ∈ i.requestLines, '\n' ∉ l.toList := by
  have hhash : '\n' ∉ i.canonicalRequest.payloadHash.toList := by
    intro h
    rw [canonicalRequest, Signing.payloadHash, Hex.toList_encode] at h
    exact absurd (Hex.isDigit_of_mem_digits h) (by decide)
  unfold requestLines
  rw [List.forall_mem_append, List.forall_mem_append, List.forall_mem_map]
  refine ⟨by decide, newline_notMem_line, ?_⟩
  rw [List.forall_mem_cons, List.forall_mem_cons, List.forall_mem_singleton]
  exact ⟨by decide, newline_notMem_signedNames i, hhash⟩

/-- Equal requests have the same lines. -/
theorem requestLines_eq_of_text {i i' : SigningInput}
    (h : i.canonicalRequest.text = i'.canonicalRequest.text) :
    i.requestLines = i'.requestLines := by
  rw [text_canonicalRequest, text_canonicalRequest] at h
  have hne (i : SigningInput) : i.requestLines ≠ [] := List.cons_ne_nil _ _
  exact Text.eq_of_intercalate rfl (hne i) (hne i') (newline_notMem_requestLines i)
    (newline_notMem_requestLines i') h

/-- Equal requests have the same values. -/
theorem values_of_text {i i' : SigningInput}
    (h : i.canonicalRequest.text = i'.canonicalRequest.text) :
    Text.normalize i.host = Text.normalize i'.host ∧
      i.sessionToken.map Text.normalize = i'.sessionToken.map Text.normalize ∧
      Text.normalize (Base64.encode i.serverNonce) =
        Text.normalize (Base64.encode i'.serverNonce) := by
  have hlines := List.append_cancel_left (requestLines_eq_of_text h)
  have hlength := congrArg List.length hlines
  unfold headers Signing.requestHeaders at hlines hlength
  -- with a token there is a line more, so both requests have one or neither has
  cases htoken : i.sessionToken with
  | none =>
    cases htoken' : i'.sessionToken with
    | none =>
      simp only [htoken, htoken', Headers.line, List.map_cons, List.cons_append, List.nil_append,
        List.cons.injEq, String.append_right_inj] at hlines
      obtain ⟨-, -, hhost, -, -, hnonce, -⟩ := hlines
      exact ⟨hhost, rfl, hnonce⟩
    | some token' => simp [htoken, htoken'] at hlength
  | some token =>
    cases htoken' : i'.sessionToken with
    | none => simp [htoken, htoken'] at hlength
    | some token' =>
      simp only [htoken, htoken', Headers.line, List.map_cons, List.cons_append, List.nil_append,
        List.cons.injEq, String.append_right_inj] at hlines
      obtain ⟨-, -, hhost, -, htokens, -, hnonce, -⟩ := hlines
      exact ⟨hhost, congrArg some htokens, hnonce⟩

/-! ## What is bound -/

theorem isBlank_symbol (n : Nat) : Text.isBlank (Base64.symbol n) = false := by
  have hall : ∀ n < 63, Text.isBlank (Base64.symbol n) = false := by decide
  by_cases h : n < 63
  · exact hall n h
  · rw [Base64.symbol_of_le (Nat.not_lt.mp h)]
    decide

theorem isBlank_of_mem_symbols : ∀ (bs : Bytes), ∀ c ∈ Base64.symbols bs, Text.isBlank c = false
  | [] => by simp [Base64.symbols]
  | [_] | [_, _] => by
    have hpad : Text.isBlank '=' = false := by decide
    simp [Base64.symbols, isBlank_symbol, hpad]
  | _ :: _ :: _ :: rest => by
    have ih := isBlank_of_mem_symbols rest
    simpa [Base64.symbols, isBlank_symbol] using ih

theorem normalize_base64 (bs : Bytes) : Text.normalize (Base64.encode bs) = Base64.encode bs := by
  apply Text.normalize_of_forall
  rw [Base64.encode, String.toList_ofList]
  exact isBlank_of_mem_symbols bs

/-- **What a signature binds.** Two signatures over the same text are for the same time, region and
server nonce, for the same host and for the same session token or none, where hosts and tokens are
compared in their normal forms. Of the hash, only that it tells these two requests apart is used. -/
theorem stringToSign_binds {i i' : SigningInput} {a a' : Authorization}
    (h : Authorization.sign i = .ok a) (h' : Authorization.sign i' = .ok a')
    (htext : i.stringToSign a.scope = i'.stringToSign a'.scope)
    (hdigest : Sha256.digest (Utf8.encode i.canonicalRequest.text) =
        Sha256.digest (Utf8.encode i'.canonicalRequest.text) →
      i.canonicalRequest.text = i'.canonicalRequest.text) :
    i.timestamp = i'.timestamp ∧ Region.ofHost i.host = Region.ofHost i'.host ∧
      i.serverNonce = i'.serverNonce ∧ Text.normalize i.host = Text.normalize i'.host ∧
      i.sessionToken.map Text.normalize = i'.sessionToken.map Text.normalize := by
  obtain ⟨-, date, region, hdate, hregion, rfl⟩ := Authorization.sign_eq_ok_iff.mp h
  obtain ⟨-, date', region', hdate', hregion', rfl⟩ := Authorization.sign_eq_ok_iff.mp h'
  obtain ⟨time, htimestamp, hlength, htime, -⟩ := Signing.dateOf?_eq_some_iff.mp hdate
  obtain ⟨time', htimestamp', hlength', htime', -⟩ := Signing.dateOf?_eq_some_iff.mp hdate'
  have hlengths : i.timestamp.toList.length = i'.timestamp.toList.length := by
    simp [htimestamp, htimestamp', hlength, hlength', htime, htime']
  obtain ⟨htimestamps, hregions, hhashes⟩ :=
    Signing.stringToSign_inj hlengths (hlength.trans hlength'.symm)
      (by simp [Signing.payloadHash]) htext
  have hrequest := hdigest (Hex.encode_inj hhashes)
  obtain ⟨hhost, htoken, hnonce⟩ := values_of_text hrequest
  rw [normalize_base64, normalize_base64] at hnonce
  exact ⟨htimestamps, by rw [hregion, hregion', hregions], Base64.encode_inj hnonce, hhost, htoken⟩

/-- A request with a host and a session token in their normal forms. -/
def tidy : SigningInput where
  accessKeyId := "AKID"
  secretKey := "secret"
  sessionToken := some "session token"
  host := "sts.eu-west-1.amazonaws.com"
  serverNonce := [1, 2, 3]
  timestamp := "20240101T120000Z"

/-- The same request with line breaks in the host and in the session token. -/
def untidy : SigningInput where
  accessKeyId := "AKID"
  secretKey := "other secret"
  sessionToken := some "session\n token\n"
  host := "sts.eu-west-1.amazonaws.com\n"
  serverNonce := [1, 2, 3]
  timestamp := "20240101T120000Z"

/-- Both requests have the same text to sign, and so the same values in normal form. -/
theorem stringToSign_binds_tidy :
    tidy.host ≠ untidy.host ∧ Text.normalize tidy.host = Text.normalize untidy.host ∧
      tidy.sessionToken.map Text.normalize = untidy.sessionToken.map Text.normalize := by
  have hregion : Region.ofHost tidy.host = .ok "eu-west-1" := by decide +kernel
  have hregion' : Region.ofHost untidy.host = .ok "eu-west-1" := by decide +kernel
  have hdate : Signing.dateOf? tidy.timestamp = some "20240101" := by decide +kernel
  have hsign : Authorization.sign tidy = .ok (Authorization.compute tidy "20240101" "eu-west-1") :=
    Authorization.sign_eq_ok_iff.mpr ⟨by decide, _, _, hdate, hregion, rfl⟩
  have hsign' : Authorization.sign untidy =
      .ok (Authorization.compute untidy "20240101" "eu-west-1") :=
    Authorization.sign_eq_ok_iff.mpr ⟨by decide, _, _, hdate, hregion', rfl⟩
  have hlines : tidy.headers.map Headers.line = untidy.headers.map Headers.line := by
    decide +kernel
  have hrequest : tidy.canonicalRequest.text = untidy.canonicalRequest.text := by
    rw [text_canonicalRequest, text_canonicalRequest, requestLines, requestLines, hlines]
    rfl
  have htext : tidy.stringToSign (Signing.scope "20240101" "eu-west-1") =
      untidy.stringToSign (Signing.scope "20240101" "eu-west-1") := by
    rw [stringToSign, stringToSign, hrequest]
    rfl
  obtain ⟨-, -, -, hhost, htoken⟩ := stringToSign_binds hsign hsign' htext fun _ => hrequest
  exact ⟨by decide, hhost, htoken⟩

end SigningInput

end SaslClient
