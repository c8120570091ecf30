import SaslClient.Bytes.Base64
import SaslClient.Bytes.Hex
import SaslClient.Hash.Hmac
import SaslClient.Signing.CanonicalRequest
import SaslClient.Signing.Region
import SaslClient.Text.Count
import SaslClient.Text.Utf8

/-!
# Authorization

The authorization header of a request that is never sent by this client: a fixed query to the
security token service, bound to the server's host and nonce. Whoever receives the header can send
the request in the client's name.

`Authorization.sign` checks the access key id, the timestamp and the host, in this order, and
otherwise always succeeds.
-/

namespace SaslClient

namespace Signing

/-- The name of the algorithm. -/
def algorithm : String := "AWS4-HMAC-SHA256"

/-- The service that the request is for. -/
def service : String := "sts"

/-- The closing part of every scope. -/
def scopeSuffix : String := "aws4_request"

/-- The body of the request. -/
def requestBody : String := "Action=GetCallerIdentity&Version=2011-06-15"

/-- The hash of a body, in hexadecimal. -/
def payloadHash (payload : Bytes) : String :=
  Hex.encode (Sha256.digest payload)

/-- The keyed hash of a text. -/
def keyedHash (key : Bytes) (text : String) : Bytes :=
  Hmac.sha256 key (Utf8.encode text)

/-- The key that signs for one date, region and service. -/
def signingKey (secretKey date region service : String) : Bytes :=
  let dateKey := keyedHash (Utf8.encode ("AWS4" ++ secretKey)) date
  let regionKey := keyedHash dateKey region
  let serviceKey := keyedHash regionKey service
  keyedHash serviceKey scopeSuffix

/-- The signature of a text, in hexadecimal. -/
def signature (key : Bytes) (text : String) : String :=
  Hex.encode (keyedHash key text)

/-- The text that is signed: algorithm, time, scope and the hash of the canonical request. -/
def stringToSign (timestamp scope requestHash : String) : String :=
  "\n".intercalate [algorithm, timestamp, scope, requestHash]

/-- The scope of a signature. -/
def scope (date region : String) : String :=
  "/".intercalate [date, region, service, scopeSuffix]

/-- The date in front of a timestamp of eight digits, `T`, six digits and `Z`. -/
def dateOf? (timestamp : String) : Option String :=
  let cs := timestamp.toList
  if cs.length = 16 ∧ (cs.take 8).all Text.isDigit ∧ cs[8]? = some 'T' ∧
      ((cs.drop 9).take 6).all Text.isDigit ∧ cs[15]? = some 'Z' then
    some (String.ofList (cs.take 8))
  else none

/-- The header fields of the request. -/
def requestHeaders (host timestamp : String) (token : Option String) (nonce : Bytes) :
    List Header :=
  [⟨"content-length", "43"⟩, ⟨"content-type", "application/x-www-form-urlencoded"⟩,
    ⟨"host", host⟩, ⟨"x-amz-date", timestamp⟩] ++
  (match token with
    | some token => [⟨"x-amz-security-token", token⟩]
    | none => []) ++
  [⟨"x-mongodb-gs2-cb-flag", "n"⟩, ⟨"x-mongodb-server-nonce", Base64.encode nonce⟩]

end Signing

/-- What a signature is computed from. -/
structure SigningInput where
  accessKeyId : String
  secretKey : String
  sessionToken : Option String
  host : String
  serverNonce : Bytes
  timestamp : String
deriving DecidableEq, Repr

namespace SigningInput

/-- The header fields of the request to sign. -/
def headers (i : SigningInput) : List Header :=
  Signing.requestHeaders i.host i.timestamp i.sessionToken i.serverNonce

/-- The names of the header fields, all of which are signed. -/
def signed (i : SigningInput) : List String :=
  i.headers.map (·.name)

/-- The request to sign, in canonical form. -/
def canonicalRequest (i : SigningInput) : CanonicalRequest where
  method := "POST"
  uri := "/"
  query := ""
  headers := i.headers
  signed := i.signed
  payloadHash := Signing.payloadHash (Utf8.encode Signing.requestBody)

/-- The text to sign within a scope. -/
def stringToSign (i : SigningInput) (scope : String) : String :=
  Signing.stringToSign i.timestamp scope
    (Signing.payloadHash (Utf8.encode i.canonicalRequest.text))

end SigningInput

/-- A computed authorization header. -/
structure Authorization where
  accessKeyId : String
  scope : String
  signedHeaders : String
  signature : String
deriving DecidableEq, Repr

namespace Authorization

/-- Signs the request for the given date and region. -/
def compute (i : SigningInput) (date region : String) : Authorization :=
  let scope := Signing.scope date region
  let key := Signing.signingKey i.secretKey date region Signing.service
  { accessKeyId := i.accessKeyId
    scope
    signedHeaders := Headers.signedNames i.signed
    signature := Signing.signature key (i.stringToSign scope) }

/-- Signs the request. -/
def sign (i : SigningInput) : Except SigningError Authorization :=
  if i.accessKeyId.isEmpty then .error .emptyAccessKeyId
  else
    match Signing.dateOf? i.timestamp with
    | none => .error (.invalidTimestamp i.timestamp)
    | some date =>
      match Region.ofHost i.host with
      | .error e => .error e
      | .ok region => .ok (compute i date region)

/-- The text of the header. -/
def header (a : Authorization) : String :=
  Signing.algorithm ++ " Credential=" ++ a.accessKeyId ++ "/" ++ a.scope ++
    ", SignedHeaders=" ++ a.signedHeaders ++ ", Signature=" ++ a.signature

end Authorization

end SaslClient
