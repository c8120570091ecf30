import SaslClient.Http.Name
import SaslClient.Http.NumericHost
import SaslClient.Http.Percent

/-!
# Hosts

A host in an address: a name, or a number in one of its two forms. In the address of a scheme that
is not known, any text without the signs that an address is made of is a name.
-/

namespace SaslClient.Http

/-- A host in an address. -/
inductive Host where
  | name (cs : List Char)
  /-- A number of 32 bits. -/
  | four (n : Nat)
  /-- Eight groups of 16 bits. -/
  | eight (groups : List Nat)
deriving DecidableEq, Repr

namespace Host

/-- The text of a host. -/
def text : Host → List Char
  | .name cs => cs
  | .four n => FourPart.text n
  | .eight groups => '[' :: EightGroup.text groups ++ [']']

/-- The host in square brackets, or else the host that a reader of names gives. -/
def ofBrackets? (name? : List Char → Option Host) (cs : List Char) : Option Host :=
  match cs with
  | '[' :: inner =>
    if inner.getLast? = some ']' then (EightGroup.ofText? inner.dropLast).map .eight else none
  | cs => name? cs

/-- The host in the address of a known scheme. A name that ends in a number has to be a number. -/
def ofText? : List Char → Option Host :=
  ofBrackets? fun cs => do
    let name ← Name.ofText? (← Utf8.decode (Percent.decode cs)).toList
    if FourPart.endsInNumber name then (FourPart.ofName? name).map .four else some (.name name)

/-- Signs that no name has, not even in an address of a scheme that is not known. -/
def isForbidden (c : Char) : Bool :=
  c = '\x00' || "\t\n\r #/:<>?@[\\]^|".toList.contains c

/-- The host in the address of a scheme that is not known. -/
def ofForeignText? : List Char → Option Host :=
  ofBrackets? fun cs =>
    if cs.any isForbidden then none else some (.name (Percent.encode Percent.isControl cs))

/-- The host in the address of a file. A drive's letter is none, and this machine is not named. -/
def ofFileText? (cs : List Char) : Option Host :=
  if cs.isEmpty then some (.name [])
  else (ofText? cs).map fun host => if host = .name "localhost".toList then .name [] else host

end Host

end SaslClient.Http
