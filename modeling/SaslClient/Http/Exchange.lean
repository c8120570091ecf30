import SaslClient.Http.Status
import SaslClient.Http.Url

/-!
# Exchanges

What can come of asking for an address. A network is what comes of each address; it is not part of
the library's own behaviour, so everything that talks to one is stated for all of them.
-/

namespace SaslClient.Http

/-- What becomes of the body of an answer. -/
inductive Body where
  /-- The whole body arrives. -/
  | text (s : String)
  /-- The connection ends inside the body. -/
  | broken
  /-- The body does not arrive in time. -/
  | stalled
deriving DecidableEq, Repr

/-- What comes of a request. -/
inductive Outcome where
  /-- The address is not absolute, so there is no request. -/
  | invalidAddress
  /-- The address is none of the web, or its host has signs that no request can carry. -/
  | unsupportedAddress
  /-- No connection comes about. -/
  | unreachable
  /-- No answer arrives in time. -/
  | timedOut
  /-- The connection ends without an answer. -/
  | noAnswer
  /-- An answer. -/
  | answered (status : Status) (body : Body)
deriving DecidableEq, Repr, Inhabited

/-- What comes of asking for each address. -/
abbrev Network := String → Outcome

/-- The network in which the requests that can be sent have given outcomes. -/
def Network.ofRequests (outcome : Url → Outcome) : Network := fun address =>
  match Url.parse? address with
  | none => .invalidAddress
  | some url => if url.isRequestable then outcome url else .unsupportedAddress

/-- Why asking for an address gives no body. -/
inductive Failure where
  | invalidAddress
  | unsupportedAddress
  | unreachable
  | timedOut
  | noAnswer
  | brokenBody
  | status (s : Status)
deriving DecidableEq, Repr

/-- The wording of a failure to ask for an address, which is shown in its usual form. -/
def Failure.message (address : String) : Failure → String
  | .invalidAddress => "builder error"
  | .unsupportedAddress => "builder error for url (" ++ Url.shown address ++ ")"
  | .unreachable => "connection failed"
  | .timedOut => "request timed out"
  | .noAnswer => "error sending request for url (" ++ Url.shown address ++ ")"
  | .brokenBody => "error decoding response body for url (" ++ Url.shown address ++ ")"
  | .status s => "HTTP status " ++ s.text

/-- The body of a successful answer, or why there is none. -/
def Outcome.body : Outcome → Except Failure String
  | .invalidAddress => .error .invalidAddress
  | .unsupportedAddress => .error .unsupportedAddress
  | .unreachable => .error .unreachable
  | .timedOut => .error .timedOut
  | .noAnswer => .error .noAnswer
  | .answered status body =>
    if status.isSuccess then
      match body with
      | .text s => .ok s
      | .broken => .error .brokenBody
      | .stalled => .error .timedOut
    else .error (.status status)

/-- Whether a server was reached, so that it saw the request. -/
def Outcome.isSeen : Outcome → Bool
  | .invalidAddress => false
  | .unsupportedAddress => false
  | .unreachable => false
  | _ => true

end SaslClient.Http
