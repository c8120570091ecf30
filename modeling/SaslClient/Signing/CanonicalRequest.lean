import SaslClient.Signing.Headers

/-!
# Canonical requests

The text of a request that its signature covers.
-/

namespace SaslClient

/-- What a canonical request is made of. -/
structure CanonicalRequest where
  method : String
  uri : String
  query : String
  headers : List Header
  signed : List String
  payloadHash : String

/-- The canonical text: method, path, query, header block, a blank line, the signed names and the
hash of the body. An empty path is written `/`. -/
def CanonicalRequest.text (r : CanonicalRequest) : String :=
  "\n".intercalate
    [r.method, if r.uri.isEmpty then "/" else r.uri, r.query, Headers.canonical r.headers r.signed,
      "", Headers.signedNames r.signed, r.payloadHash]

end SaslClient
