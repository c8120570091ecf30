import SaslClient.Nonce
import SaslClient.Proofs.Signing.StringToSign

/-!
# What a region does to the delimiters

The region is a label of the server's host and may hold any characters but dots. It is written
between slashes into the scope, and with the scope between line breaks into the text to sign and
between commas into the header. Each of the three texts has the number of parts that it should have
if and only if the region does not hold its delimiter.

Main results:

* `Signing.splitOn_scope`, `Signing.splitOn_stringToSign`, `Authorization.commaParts_header`: the
  parts of the three texts.
* `Authorization.delimiters_kept_iff`: when the parts are those that were put together.
* `Authorization.delimiters_broken`: one host breaks all three texts.
-/

namespace SaslClient

/-! ## The parts of the texts -/

namespace Signing

theorem toList_scope (date region : String) :
    (scope date region).toList =
      date.toList ++ '/' :: (region.toList ++ '/' ::
        (service.toList ++ '/' :: scopeSuffix.toList)) := by
  simp [scope]

theorem splitOn_scope {date : String} (hdate : '/' ∉ date.toList) (region : String) :
    (scope date region).toList.splitOn '/' =
      date.toList :: (region.toList.splitOn '/' ++ [service.toList, scopeSuffix.toList]) := by
  rw [toList_scope, List.splitOn_append_cons_self, List.splitOn_append_cons_self,
    List.splitOn_append_cons_self, List.splitOn_eq_singleton hdate]
  rfl

theorem splitOn_stringToSign {timestamp hash : String} (htimestamp : '\n' ∉ timestamp.toList)
    (hhash : '\n' ∉ hash.toList) (scope : String) :
    (stringToSign timestamp scope hash).toList.splitOn '\n' =
      algorithm.toList :: timestamp.toList :: (scope.toList.splitOn '\n' ++ [hash.toList]) := by
  have hlist : (stringToSign timestamp scope hash).toList =
      algorithm.toList ++ '\n' :: (timestamp.toList ++ '\n' ::
        (scope.toList ++ '\n' :: hash.toList)) := by
    simp [stringToSign]
  have halgorithm : '\n' ∉ algorithm.toList := by decide
  rw [hlist, List.splitOn_append_cons_self, List.splitOn_append_cons_self,
    List.splitOn_append_cons_self, List.splitOn_eq_singleton halgorithm,
    List.splitOn_eq_singleton htimestamp, List.splitOn_eq_singleton hhash]
  rfl

/-- A timestamp with a date is made of digits and two letters. -/
theorem notMem_of_dateOf? {timestamp date : String} (h : dateOf? timestamp = some date) {c : Char}
    (hdigit : Text.isDigit c = false) (hT : c ≠ 'T') (hZ : c ≠ 'Z') :
    c ∉ timestamp.toList ∧ c ∉ date.toList := by
  obtain ⟨time, htimestamp, -, -, hdigits⟩ := dateOf?_eq_some_iff.mp h
  obtain ⟨hdate, htime⟩ := List.forall_mem_append.mp hdigits
  have hnot {cs : List Char} (hcs : ∀ c ∈ cs, Text.isDigit c = true) : c ∉ cs := by
    intro hmem
    rw [hcs c hmem] at hdigit
    cases hdigit
  refine ⟨?_, hnot hdate⟩
  simp [htimestamp, hnot hdate, hnot htime, hT, hZ]

/-- A line break in a scope stands in the region. -/
theorem newline_mem_scope_iff {date : String} (hdate : '\n' ∉ date.toList) (region : String) :
    '\n' ∈ (scope date region).toList ↔ '\n' ∈ region.toList := by
  simp [toList_scope, hdate, service, scopeSuffix]

/-- A comma with a space behind it in a scope stands in the region. -/
theorem comma_infix_scope_iff {date : String} (hdate : ',' ∉ date.toList) (region : String) :
    [',', ' '] <:+: (scope date region).toList ↔ [',', ' '] <:+: region.toList := by
  have hfront : ',' ∉ date.toList ++ ['/'] := by simp [hdate]
  have hback : ',' ∉ '/' :: (service.toList ++ '/' :: scopeSuffix.toList) := by decide
  rw [toList_scope, List.append_cons, Text.comma_infix_append_left hfront,
    Text.comma_infix_append_right (by decide) hback]

end Signing

namespace Authorization

/-- The part of a header that names the access key and the scope. -/
def credentialPart (a : Authorization) : String :=
  Signing.algorithm ++ " Credential=" ++ a.accessKeyId ++ "/" ++ a.scope

theorem commaParts_header {a : Authorization} (hnames : ',' ∉ a.signedHeaders.toList)
    (hsignature : ',' ∉ a.signature.toList) :
    Text.commaParts a.header.toList =
      Text.commaParts a.credentialPart.toList ++
        [("SignedHeaders=" ++ a.signedHeaders).toList, ("Signature=" ++ a.signature).toList] := by
  have hlist : a.header.toList = a.credentialPart.toList ++ ',' :: ' ' ::
      (("SignedHeaders=" ++ a.signedHeaders).toList ++ ',' :: ' ' ::
        ("Signature=" ++ a.signature).toList) := by
    simp [header, credentialPart]
  have hnames' : ',' ∉ ("SignedHeaders=" ++ a.signedHeaders).toList := by simp [hnames]
  have hsignature' : ',' ∉ ("Signature=" ++ a.signature).toList := by simp [hsignature]
  rw [hlist, Text.commaParts_append, Text.commaParts_append, Text.commaParts_of_notMem hnames',
    Text.commaParts_of_notMem hsignature']
  rfl

theorem isDigit_of_mem_signature (i : SigningInput) (date region : String) :
    ∀ c ∈ (compute i date region).signature.toList, Hex.isDigit c = true := by
  intro c hc
  rw [compute, Signing.signature, Hex.toList_encode] at hc
  exact Hex.isDigit_of_mem_digits hc

theorem comma_notMem_signedHeaders (i : SigningInput) (date region : String) :
    ',' ∉ (compute i date region).signedHeaders.toList := by
  rw [signedHeaders_compute, SigningInput.signed_eq]
  split <;> decide

/-- A comma with a space behind it in front of the signed names stands in the region. -/
theorem comma_infix_credentialPart_iff {i : SigningInput} (hid : ',' ∉ i.accessKeyId.toList)
    {date : String} (hdate : ',' ∉ date.toList) (region : String) :
    [',', ' '] <:+: (compute i date region).credentialPart.toList ↔
      [',', ' '] <:+: region.toList := by
  have hlist : (compute i date region).credentialPart.toList =
      (Signing.algorithm ++ " Credential=" ++ i.accessKeyId ++ "/").toList ++
        (Signing.scope date region).toList := by
    simp [credentialPart, compute]
  have hfront : ',' ∉ (Signing.algorithm ++ " Credential=" ++ i.accessKeyId ++ "/").toList := by
    simp [Signing.algorithm, hid]
  rw [hlist, Text.comma_infix_append_left hfront, Signing.comma_infix_scope_iff hdate]

/-! ## The parts of a signed header -/

section Compute

variable {i : SigningInput} {date : String} (hdate : Signing.dateOf? i.timestamp = some date)
  (region : String)
include hdate

theorem splitOn_scope_compute :
    (compute i date region).scope.toList.splitOn '/' =
      date.toList :: (region.toList.splitOn '/' ++
        [Signing.service.toList, Signing.scopeSuffix.toList]) :=
  Signing.splitOn_scope (Signing.notMem_of_dateOf? hdate rfl (by decide) (by decide)).2 region

theorem splitOn_lines_compute :
    (i.stringToSign (compute i date region).scope).toList.splitOn '\n' =
      Signing.algorithm.toList :: i.timestamp.toList ::
        ((compute i date region).scope.toList.splitOn '\n' ++
          [(Signing.payloadHash (Utf8.encode i.canonicalRequest.text)).toList]) := by
  refine Signing.splitOn_stringToSign
    (Signing.notMem_of_dateOf? hdate rfl (by decide) (by decide)).1 ?_ _
  intro hmem
  rw [Signing.payloadHash, Hex.toList_encode] at hmem
  exact absurd (Hex.isDigit_of_mem_digits hmem) (by decide)

theorem newline_notMem_scope_iff :
    '\n' ∉ (compute i date region).scope.toList ↔ '\n' ∉ region.toList :=
  not_congr (Signing.newline_mem_scope_iff
    (Signing.notMem_of_dateOf? hdate rfl (by decide) (by decide)).2 region)

end Compute

theorem commaParts_header_compute (i : SigningInput) (date region : String) :
    Text.commaParts (compute i date region).header.toList =
      Text.commaParts (compute i date region).credentialPart.toList ++
        [("SignedHeaders=" ++ (compute i date region).signedHeaders).toList,
          ("Signature=" ++ (compute i date region).signature).toList] := by
  refine commaParts_header (comma_notMem_signedHeaders i date region) ?_
  intro hmem
  exact absurd (isDigit_of_mem_signature i date region _ hmem) (by decide)

/-- **What a region does to the delimiters.** Signing for a host whose region holds no slash gives a
scope of exactly four parts; for one without a line break, a text to sign of exactly four lines; for
one without a comma that a space follows, a header of exactly three parts. For every other region
there are more parts. -/
theorem delimiters_kept_iff {i : SigningInput} {a : Authorization} (h : sign i = .ok a)
    (hid : ',' ∉ i.accessKeyId.toList) :
    ∃ date region, Signing.dateOf? i.timestamp = some date ∧ Region.ofHost i.host = .ok region ∧
      let scopeParts := a.scope.toList.splitOn '/'
      let lines := (i.stringToSign a.scope).toList.splitOn '\n'
      let headerParts := Text.commaParts a.header.toList
      (scopeParts.length = 4 ↔ '/' ∉ region.toList) ∧
      ('/' ∉ region.toList →
        scopeParts = [date, region, "sts", "aws4_request"].map String.toList) ∧
      (lines.length = 4 ↔ '\n' ∉ region.toList) ∧
      ('\n' ∉ region.toList →
        lines = ["AWS4-HMAC-SHA256", i.timestamp, a.scope,
          Signing.payloadHash (Utf8.encode i.canonicalRequest.text)].map String.toList) ∧
      (headerParts.length = 3 ↔ ¬ [',', ' '] <:+: region.toList) ∧
      (¬ [',', ' '] <:+: region.toList →
        headerParts = ["AWS4-HMAC-SHA256 Credential=" ++ i.accessKeyId ++ "/" ++ a.scope,
          "SignedHeaders=" ++ a.signedHeaders, "Signature=" ++ a.signature].map String.toList) ∧
      a.signature.toList.length = 64 ∧ ∀ c ∈ a.signature.toList, Hex.isDigit c = true := by
  obtain ⟨-, date, region, hdate, hregion, rfl⟩ := sign_eq_ok_iff.mp h
  have hcomma : ',' ∉ date.toList :=
    (Signing.notMem_of_dateOf? hdate rfl (by decide) (by decide)).2
  have hcredential := comma_infix_credentialPart_iff hid hcomma region
  refine ⟨date, region, hdate, hregion, ?_, ?_, ?_, ?_, ?_, ?_, length_signature i date region,
    isDigit_of_mem_signature i date region⟩
  · rw [splitOn_scope_compute hdate, ← Text.length_splitOn_eq_one_iff]
    simp
  · intro hslash
    rw [splitOn_scope_compute hdate, List.splitOn_eq_singleton hslash]
    rfl
  · rw [splitOn_lines_compute hdate, ← newline_notMem_scope_iff hdate,
      ← Text.length_splitOn_eq_one_iff]
    simp
  · intro hnewline
    rw [splitOn_lines_compute hdate,
      List.splitOn_eq_singleton ((newline_notMem_scope_iff hdate region).mpr hnewline)]
    rfl
  · rw [commaParts_header_compute, ← hcredential, ← Text.length_commaParts_eq_one_iff]
    simp
  · intro hseparator
    rw [commaParts_header_compute,
      Text.commaParts_eq_singleton (mt hcredential.mp hseparator)]
    rfl

/-- A host in whose region no delimiter stands. -/
theorem delimiters_kept_iff_tidy :
    ∃ a : Authorization, sign SigningInput.tidy = .ok a ∧
      a.scope.toList.splitOn '/' =
        ["20240101", "eu-west-1", "sts", "aws4_request"].map String.toList := by
  have hdate : Signing.dateOf? SigningInput.tidy.timestamp = some "20240101" := by decide +kernel
  have hregion : Region.ofHost SigningInput.tidy.host = .ok "eu-west-1" := by decide +kernel
  have hsign := sign_eq_ok_iff.mpr ⟨by decide, _, _, hdate, hregion, rfl⟩
  obtain ⟨date, region, hdate', hregion', -, hscope, -⟩ := delimiters_kept_iff hsign (by decide)
  obtain rfl := Option.some.inj (hdate.symm.trans hdate')
  obtain rfl := Except.ok.inj (hregion.symm.trans hregion')
  exact ⟨_, hsign, hscope (by decide)⟩

/-- A request for a host whose region holds all three delimiters. -/
def unruly : SigningInput where
  accessKeyId := "AKID"
  secretKey := "SECRET"
  sessionToken := none
  host := "sts.us/east\n, west.amazonaws.com"
  serverNonce := Nonce.counting.bytes ++ Nonce.counting.bytes
  timestamp := "20240101T120000Z"

/-- The request is signed, with a part too many in each of the three texts. -/
theorem delimiters_broken :
    ∃ a : Authorization, sign unruly = .ok a ∧
      (∀ c ∈ unruly.accessKeyId.toList, c ≠ '/' ∧ c ≠ ',' ∧ Text.isBlank c = false) ∧
      (a.scope.toList.splitOn '/').length = 5 ∧
      ((unruly.stringToSign a.scope).toList.splitOn '\n').length = 5 ∧
      (Text.commaParts a.header.toList).length = 4 := by
  have hdate : Signing.dateOf? unruly.timestamp = some "20240101" := by decide +kernel
  have hregion : Region.ofHost unruly.host = .ok "us/east\n, west" := by decide +kernel
  have hid : unruly.accessKeyId.toList.all
      (fun c => c ≠ '/' ∧ c ≠ ',' ∧ Text.isBlank c = false) = true := by decide
  refine ⟨_, sign_eq_ok_iff.mpr ⟨by decide, _, _, hdate, hregion, rfl⟩, ?_, ?_, ?_, ?_⟩
  · intro c hc
    exact of_decide_eq_true (List.all_eq_true.mp hid c hc)
  · rw [splitOn_scope_compute hdate]
    decide +kernel
  · have hscope : ((compute unruly "20240101" "us/east\n, west").scope.toList.splitOn '\n').length =
        2 := by
      decide +kernel
    rw [splitOn_lines_compute hdate]
    simp [hscope]
  · have hpart : (compute unruly "20240101" "us/east\n, west").credentialPart =
        "AWS4-HMAC-SHA256 Credential=AKID/20240101/us/east\n, west/sts/aws4_request" := by
      decide +kernel
    rw [commaParts_header_compute, hpart]
    decide +kernel

end Authorization

end SaslClient
