import SaslClient.Signing.Error

/-!
# Regions

The region that a request is signed for is read off the host: the second label, or a default for the
global host and for a host of one label. A host is a join of non-empty labels of at most 255 bytes;
anything else is refused with the first fault that applies.
-/

namespace SaslClient.Region

/-- The region of the global host and of hosts with a single label. -/
def default : String := "us-east-1"

/-- The host that stands for no region of its own. -/
def globalHost : String := "sts.amazonaws.com"

/-- The greatest length of a host in bytes. -/
def maxHostLength : Nat := 255

/-- The labels of a host, the parts between its dots. -/
def labels (host : String) : List (List Char) :=
  host.toList.splitOn '.'

/-- The first fault of a host, if it has one. -/
def hostFault? (host : String) : Option HostFault :=
  if host.isEmpty then some .empty
  else if maxHostLength < host.utf8ByteSize then some .tooLong
  else if host.toList.head? = some '.' ∨ host.toList.getLast? = some '.' then some .edgeDot
  else if (labels host).any (·.isEmpty) then some .emptyLabel
  else none

/-- The region of a host without a fault. -/
def ofLabels (host : String) : String :=
  if host = globalHost then default
  else
    match labels host with
    | _ :: second :: _ => String.ofList second
    | _ => default

/-- The region to sign for when the request goes to this host. -/
def ofHost (host : String) : Except SigningError String :=
  match hostFault? host with
  | some fault => .error (.invalidHost host fault)
  | none => .ok (ofLabels host)

end SaslClient.Region
