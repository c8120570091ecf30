import SaslClient.Document.Error
import SaslClient.Http.Exchange
import SaslClient.Json.Fault
import SaslClient.Signing.Error

/-!
# Authentication errors

Why an attempt ends. Every error is fatal for its attempt; `isTransient` tells whether a new attempt
may succeed with the same configuration. The inductive types below hold the causes; their last
constructors carry the wording of a cause reported from outside the library.
-/

namespace SaslClient

/-- What is wrong with a configuration. -/
inductive ConfigFault where
  | noMechanism
  | unknownMechanism (name : String)
  /-- A session token without a username and password to go with it. -/
  | tokenWithoutPair
  /-- The plain mechanism without a username and password. -/
  | plainWithoutPair
  | other (text : String)
deriving DecidableEq, Repr

/-- The wording of a configuration fault. -/
def ConfigFault.message : ConfigFault → String
  | .noMechanism => "no authentication mechanism is configured"
  | .unknownMechanism name => "unsupported authentication mechanism `" ++ name ++ "`"
  | .tokenWithoutPair =>
    "The connection string contains auth properties and no username and password"
  | .plainWithoutPair => "PLAIN requires both a username and a password"
  | .other text => text

/-- What is wrong with a server nonce. -/
inductive NonceFault where
  | wrongLength (expected actual : Nat)
  /-- It does not begin with what the client sent. -/
  | notEchoed
  | other (text : String)
deriving DecidableEq, Repr

/-- The wording of a nonce fault. -/
def NonceFault.message : NonceFault → String
  | .wrongLength expected actual =>
    "expected " ++ toString expected ++ " bytes, got " ++ toString actual
  | .notEchoed => "server nonce does not start with the client nonce"
  | .other text => text

/-- Where server and client disagree on how far the conversation is. -/
inductive ProtocolFault where
  /-- The server asks for more after the client's last message. -/
  | noResponse
  /-- The server is done before the client's last message. -/
  | finishedEarly
  | other (text : String)
deriving DecidableEq, Repr

/-- The wording of a protocol fault. -/
def ProtocolFault.message : ProtocolFault → String
  | .noResponse => "no client response to challenge"
  | .finishedEarly => "server finished the conversation before the client"
  | .other text => text

/-- The fields of a key document. -/
inductive KeyField where
  | accessKeyId
  | secretAccessKey
  | token
deriving DecidableEq, Repr

/-- The name of a field of a key document. -/
def KeyField.name : KeyField → String
  | .accessKeyId => "AccessKeyId"
  | .secretAccessKey => "SecretAccessKey"
  | .token => "Token"

/-- Why an endpoint supplies no keys. -/
inductive SourceFault where
  /-- Asking for the address gives no body. -/
  | http (failure : Http.Failure)
  /-- The role listing names no role. -/
  | noRole
  /-- The key document is not what it should be. The document itself is not quoted. -/
  | malformed (category : Json.Category) (location : Json.Location)
  /-- The key document lacks a field that is needed. -/
  | missingField (field : KeyField)
  | other (text : String)
deriving DecidableEq, Repr

/-- The wording of a fault of an endpoint. -/
def SourceFault.message (endpoint : String) : SourceFault → String
  | .http failure => failure.message endpoint
  | .noRole => "no instance role is attached"
  | .malformed category location =>
    "malformed credentials document (" ++ category.name ++ " error at line " ++
      toString location.line ++ ", column " ++ toString location.column ++ ")"
  | .missingField field => "credentials document has no `" ++ field.name ++ "`"
  | .other text => text

/-- Why an attempt to authenticate ends without success. -/
inductive AuthError where
  /-- The configuration cannot work. -/
  | config (fault : ConfigFault)
  /-- The server nonce does not continue the client's. -/
  | invalidServerNonce (fault : NonceFault)
  /-- A conversation was asked for a message after its last one. -/
  | tooManySteps (mechanism : String)
  /-- Server and client disagree on how far the conversation is. -/
  | protocol (fault : ProtocolFault)
  /-- An endpoint supplies no keys. -/
  | credentialSource (endpoint : String) (fault : SourceFault)
  /-- The request cannot be signed. -/
  | signing (error : SigningError)
  /-- A payload or reply cannot be read. -/
  | document (error : DocumentError)
  /-- The server refused a command. -/
  | server (code : Int32) (message : String)
  /-- A command could not be delivered. -/
  | transport (text : String)
  /-- The conversation failed before. -/
  | conversationAborted
deriving DecidableEq, Repr

namespace AuthError

/-- The wording of an error. -/
def message : AuthError → String
  | .config fault => "configuration error: " ++ fault.message
  | .invalidServerNonce fault => "Invalid server nonce: " ++ fault.message
  | .tooManySteps mechanism =>
    "Too many steps involved in the " ++ mechanism ++ " negotiation."
  | .protocol fault => "protocol error: " ++ fault.message
  | .credentialSource endpoint fault =>
    "failed to obtain credentials from " ++ endpoint ++ ": " ++ fault.message endpoint
  | .signing error => error.message
  | .document error => "malformed document: " ++ error.message
  | .server code message => "server error " ++ toString code.toInt ++ ": " ++ message
  | .transport text => "transport error: " ++ text
  | .conversationAborted => "conversation aborted after an earlier failure"

/-- Whether the configuration is at fault. -/
def isConfig : AuthError → Bool
  | .config _ => true
  | _ => false

/-- Whether either side broke the protocol. -/
def isProtocol : AuthError → Bool
  | .invalidServerNonce _ => true
  | .tooManySteps _ => true
  | .protocol _ => true
  | .document _ => true
  | .conversationAborted => true
  | _ => false

/-- Whether a new attempt may succeed with the same configuration. -/
def isTransient : AuthError → Bool
  | .credentialSource _ _ => true
  | .transport _ => true
  | _ => false

end AuthError

end SaslClient
