import SaslClient.AuthError
import SaslClient.Metadata.Endpoint
import SaslClient.Settings.Basic
import SaslClient.Text.Blank

/-!
# Metadata client

Fetching a key document. A container's is asked for directly; an instance's listing is asked for
first, and its first line names the role to ask for. Nothing is asked for twice, and whatever goes
wrong is reported with the address that was asked for last. Every address is written down where it
is asked for (`getBody`).
-/

namespace SaslClient.Metadata

/-- A key document as it was served, and where. -/
structure Answer where
  endpoint : String
  body : String
deriving DecidableEq, Repr

/-- What came of a fetch, and the addresses that were asked for, in order. -/
structure Fetch where
  result : Except AuthError Answer
  asked : List String

/-- A client for one endpoint. -/
structure Client where
  endpoint : Endpoint
  containerBase : String
  instanceBase : String
  timeout : Timeout
deriving DecidableEq, Repr

namespace Client

/-- The address without the slashes at its end. -/
def withoutSlashes (base : String) : String :=
  String.ofList (base.toList.reverse.dropWhile (· == '/')).reverse

/-- The address with a slash at its end. -/
def withSlash (base : String) : String :=
  if base.toList.getLast? = some '/' then base else base ++ "/"

/-- The client for an endpoint under the given settings. -/
def ofSettings (settings : Settings) (endpoint : Endpoint) : Client where
  endpoint := endpoint
  containerBase := withoutSlashes settings.containerBase
  instanceBase := withSlash settings.instanceBase
  timeout := settings.metadataTimeout

/-- The address of a container's key document. -/
def containerAddress (client : Client) (relativeUri : String) : String :=
  if relativeUri.toList.head? = some '/' then client.containerBase ++ relativeUri
  else client.containerBase ++ "/" ++ relativeUri

/-- The role that a listing names: its first line without blanks around it. -/
def roleOf (listing : String) : String :=
  String.ofList (Text.trimChars (listing.toList.takeWhile (· != '\n')))

/-- Requests to a network. The addresses that were asked for are written down in order, and a
failure ends the requests. -/
abbrev Asking := ExceptT AuthError (StateM (List String))

/-- The body that is served at an address, or why there is none. -/
def bodyAt (network : Http.Network) (address : String) : Except AuthError String :=
  (network address).body.mapError fun failure => .credentialSource address (.http failure)

/-- Asks for the body at an address. -/
def getBody (network : Http.Network) (address : String) : Asking String := do
  modify (· ++ [address])
  bodyAt network address

/-- Asks for the key document at an address. -/
def getAnswer (network : Http.Network) (address : String) : Asking Answer := do
  return ⟨address, ← getBody network address⟩

/-- Asks for what leads to the key document, and for the document. -/
def ask (client : Client) (network : Http.Network) : Asking Answer :=
  match client.endpoint with
  | .container uri => getAnswer network (client.containerAddress uri)
  | .instanceRole => do
    let base := client.instanceBase
    let role := roleOf (← getBody network base)
    if role.isEmpty then throw (.credentialSource base .noRole)
    else getAnswer network (base ++ role)

/-- Fetches the key document. -/
def fetch (client : Client) (network : Http.Network) : Fetch :=
  let (result, asked) := (client.ask network).run.run []
  ⟨result, asked⟩

end Client

end SaslClient.Metadata
