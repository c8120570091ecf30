import SaslClient.Environment

/-!
# Metadata endpoints

Two families of endpoints serve keys. A container has a path of its own, published in its
environment; an instance has a listing that names the role whose keys it may use.
-/

namespace SaslClient.Metadata

/-- Which endpoint to ask. -/
inductive Endpoint where
  | container (relativeUri : String)
  | instanceRole
deriving DecidableEq, Repr

namespace Endpoint

/-- The variable that publishes the path of a container. -/
def uriVariable : String := "AWS_CONTAINER_CREDENTIALS_RELATIVE_URI"

/-- The endpoint of a process: its container's, if a path is published. -/
def ofEnvironment (env : Environment) : Endpoint :=
  match env.value? uriVariable with
  | some uri => .container uri
  | none => .instanceRole

end Endpoint

end SaslClient.Metadata
