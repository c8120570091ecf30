import SaslClient.Environment
import SaslClient.Mechanism
import SaslClient.Properties
import SaslClient.Text.Quoted

/-!
# Credentials

What the user configured to authenticate with: a mechanism, perhaps a username and a password, the
database to authenticate against, and properties of the mechanism. Fields that are missing are
looked up when they are needed.

`Credential.describe` shows a credential without its secrets.
-/

namespace SaslClient

/-- The credential of a user. -/
structure Credential where
  mechanism : Mechanism
  username : Option String := none
  password : Option String := none
  source : String := "$external"
  properties : Properties := .empty
deriving DecidableEq, Repr

namespace Credential

/-- The property, and the variable, that holds a session token. -/
def sessionTokenProperty : String := "AWS_SESSION_TOKEN"

/-- The variable that holds the access key id. -/
def accessKeyVariable : String := "AWS_ACCESS_KEY_ID"

/-- The variable that holds the secret key. -/
def secretKeyVariable : String := "AWS_SECRET_ACCESS_KEY"

/-- The credential with a property set. -/
def setProperty (c : Credential) (name value : String) : Credential :=
  { c with properties := c.properties.set name value }

/-- A property of the mechanism. -/
def property? (c : Credential) (name : String) : Option String :=
  c.properties.lookup name

/-- The configured session token. -/
def sessionToken? (c : Credential) : Option String :=
  c.property? sessionTokenProperty

/-- Whether both a username and a password are configured. -/
def hasPair (c : Credential) : Bool :=
  c.username.isSome && c.password.isSome

/-- The credential with the keys that a process was started with. -/
def ofEnvironment (env : Environment) : Credential :=
  let keys : Credential :=
    { mechanism := .aws
      username := env.value? accessKeyVariable
      password := env.value? secretKeyVariable }
  match env.value? sessionTokenProperty with
  | some token => keys.setProperty sessionTokenProperty token
  | none => keys

/-- An optional text for display. -/
def describeOption : Option String → String
  | none => "None"
  | some s => "Some(" ++ Text.quote s ++ ")"

/-- A list of texts for display. -/
def describeList (texts : List String) : String :=
  "[" ++ ", ".intercalate (texts.map Text.quote) ++ "]"

/-- The credential for display. A password is shown as a mark and a property by its name, so what is
secret has no part in the text. -/
def describe (c : Credential) : String :=
  "ClientCredential \x7b mechanism: MechanismName(" ++ Text.quote c.mechanism.name ++
    "), username: " ++ describeOption c.username ++
    ", password: " ++ describeOption (c.password.map fun _ => "[REDACTED]") ++
    ", source: " ++ Text.quote c.source ++
    ", properties: " ++ describeList c.properties.names ++ " \x7d"

end Credential

end SaslClient
