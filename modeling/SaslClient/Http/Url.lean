import SaslClient.Http.Host
import SaslClient.Http.Path

/-!
# Addresses

The parts of an absolute address. The schemes of the web and of files are known, and their
addresses are read with slants of both kinds; what other schemes mean is left open. `text` writes an
address in its usual form, with the parts that were read.
-/

namespace SaslClient.Http

/-- An absolute address. -/
structure Url where
  scheme : List Char
  /-- A user name and password that are no text. All others are left out, since a request carries
  them elsewhere. -/
  login : List Char := []
  /-- The host, which may be empty, unless the address has no place for one. -/
  host : Option Host := none
  /-- The number of the service at the host, unless it is the usual one. -/
  service : Option Nat := none
  path : List Char
  query : Option (List Char) := none
  fragment : Option (List Char) := none
deriving DecidableEq, Repr

namespace Url

/-! ## Schemes -/

/-- The usual service number of a scheme of the web. -/
def usualService? (scheme : List Char) : Option Nat :=
  match String.ofList scheme with
  | "http" => some 80
  | "https" => some 443
  | "ws" => some 80
  | "wss" => some 443
  | "ftp" => some 21
  | _ => none

/-- The scheme of files. -/
def fileScheme : List Char := ['f', 'i', 'l', 'e']

/-- Whether a scheme is one of the web or of files. -/
def isKnown (scheme : List Char) : Bool :=
  scheme == fileScheme || (usualService? scheme).isSome

/-- Whether a character may stand in a scheme. -/
def isSchemeChar (c : Char) : Bool :=
  c.isAlphanum || c = '+' || c = '-' || c = '.'

/-- The scheme in lower case, and the rest behind its colon. -/
def splitScheme? (cs : List Char) : Option (List Char × List Char) :=
  let scheme := cs.takeWhile isSchemeChar
  match cs.dropWhile isSchemeChar with
  | ':' :: rest =>
    if (scheme.head?).any Char.isAlpha then some (scheme.map Char.toLower, rest) else none
  | _ => none

/-! ## The ends of an address -/

/-- Controls and the space, which are dropped around an address. -/
def isEdge (c : Char) : Bool :=
  c.toNat ≤ 0x20

/-- Tabs and line breaks, which are dropped wherever they stand. -/
def isDropped (c : Char) : Bool :=
  c = '\t' || c = '\n' || c = '\r'

/-- The address as it is read, without what is dropped. -/
def clean (cs : List Char) : List Char :=
  let front := cs.dropWhile isEdge
  ((front.reverse.dropWhile isEdge).reverse).filter fun c => !isDropped c

/-- Whether a query or a fragment begins. -/
def endsPath (c : Char) : Bool :=
  c = '?' || c = '#'

/-- The query at the front, if there is one. -/
def query? (isKnown : Bool) (cs : List Char) : Option (List Char) :=
  match cs with
  | '?' :: rest => some (Percent.encode (Percent.inQuery isKnown) (rest.takeWhile (· != '#')))
  | _ => none

/-- The fragment, if there is one. -/
def fragment? (cs : List Char) : Option (List Char) :=
  match cs.dropWhile (· != '#') with
  | '#' :: rest => some (Percent.encode Percent.inFragment rest)
  | _ => none

/-- The address with the query and the fragment of a text. -/
def withEnds (u : Url) (cs : List Char) : Url :=
  let ends := cs.dropWhile fun c => !endsPath c
  { u with query := query? (isKnown u.scheme) ends, fragment := fragment? ends }

/-- The text of a path in front of a query or fragment. -/
def pathPart (cs : List Char) : List Char :=
  cs.takeWhile fun c => !endsPath c

/-- The text behind a slash at the front, if there is one. -/
def dropSlash (isKnown : Bool) (cs : List Char) : List Char :=
  match cs with
  | c :: rest => if Path.isSlash isKnown c then rest else cs
  | [] => []

/-! ## The authority -/

/-- Where the authority ends. -/
def endsAuthority (isKnown : Bool) (c : Char) : Bool :=
  Path.isSlash isKnown c || endsPath c

/-- A user name, a colon and a password as they are written. -/
def writtenLogin (cs : List Char) : List Char :=
  let encode := Percent.encode Percent.inLogin
  let password := (cs.dropWhile (· != ':')).drop 1
  encode (cs.takeWhile (· != ':')) ++ if password.isEmpty then [] else ':' :: encode password

/-- Whether a user name and password are text, so that a request can carry them. -/
def isTextLogin (cs : List Char) : Bool :=
  let isText (part : List Char) := (Utf8.decode (Percent.decode part)).isSome
  let name := cs.takeWhile (· != ':')
  isText name && (!name.isEmpty || isText (cs.dropWhile (· != ':')))

/-- The host in front of a colon. Colons within square brackets are part of the host. -/
def hostPart (inBrackets : Bool) : List Char → List Char
  | [] => []
  | c :: rest =>
    if c = ':' && !inBrackets then []
    else c :: hostPart (c = '[' || (inBrackets && c != ']')) rest

/-- The service number behind a colon, and the text behind it. No digits stand for the usual one. -/
def service? (cs : List Char) : Option (Option Nat × List Char) :=
  match cs with
  | ':' :: rest =>
    let digits := rest.takeWhile Text.isDigit
    let behind := rest.dropWhile Text.isDigit
    let n := Text.digitsValue digits
    if n < 65536 && (behind.isEmpty || behind.head? = some '\\') then
      some (if digits.isEmpty then none else some n, behind)
    else none
  | rest => some (none, rest)

/-- An address from its authority on, which begins behind two slashes. -/
def ofAuthority? (scheme cs : List Char) : Option Url := do
  let isKnown := isKnown scheme
  let authority := cs.takeWhile fun c => !endsAuthority isKnown c
  let behind := cs.dropWhile fun c => !endsAuthority isKnown c
  let hostAndService := (authority.reverse.takeWhile (· != '@')).reverse
  let login := (authority.take (authority.length - hostAndService.length)).dropLast
  let hasLogin := !(writtenLogin login).isEmpty
  let isBare := authority == ['@'] && !behind.isEmpty
  let hostText := hostPart false hostAndService
  let host ← if isKnown then Host.ofText? hostText else Host.ofForeignText? hostText
  let afterHost := hostAndService.drop hostText.length
  if host = .name [] && (hasLogin || isBare || isKnown || !afterHost.isEmpty) then none
  let (service, afterService) ← service? afterHost
  let rest := afterService ++ behind
  let path := pathPart rest
  let hasPath := isKnown || !path.isEmpty
  some <| withEnds
    { scheme
      login := if isTextLogin login then [] else writtenLogin login
      host
      service := if service = usualService? scheme then none else service
      path :=
        if hasPath then Path.text (Path.segments isKnown false (dropSlash isKnown path)) else [] }
    rest

/-! ## Files and other addresses -/

/-- The address of a file, from the text behind its scheme on. -/
def ofFile? (cs : List Char) : Option Url := do
  let isSlash := Path.isSlash true
  let address (host : Host) (path : List Char) (cs : List Char) : Url :=
    let segments := Path.segments true true path
    let isDrive := (segments.head?).any Path.isDrive
    withEnds
      { scheme := fileScheme
        host := some (if isDrive then .name [] else host)
        path := Path.fileText segments }
      cs
  match cs with
  | a :: b :: rest =>
    if isSlash a && isSlash b then
      let hostText := rest.takeWhile fun c => !endsAuthority true c
      if Path.isDrive hostText then return address (.name []) (pathPart rest) rest
      let host ← Host.ofFileText? hostText
      let behind := rest.drop hostText.length
      let path := pathPart behind
      return address host (if host = .name [] then path else dropSlash true path) behind
    else return address (.name []) (dropSlash true (pathPart cs)) cs
  | cs => return address (.name []) (dropSlash true (pathPart cs)) cs

/-- The address of a scheme that is not known, from the text behind its scheme on. Without slashes
what follows is no path of segments. -/
def ofForeign? (scheme cs : List Char) : Option Url :=
  match cs with
  | '/' :: '/' :: rest => ofAuthority? scheme rest
  | '/' :: rest =>
    some (withEnds { scheme, path := Path.text (Path.segments false false (pathPart rest)) } rest)
  | cs => some (withEnds { scheme, path := Percent.encode Percent.isControl (pathPart cs) } cs)

/-- The parts of an address, if it is absolute. -/
def parse? (text : String) : Option Url := do
  let (scheme, rest) ← splitScheme? (clean text.toList)
  if scheme == fileScheme then ofFile? rest
  else if isKnown scheme then ofAuthority? scheme (rest.dropWhile (Path.isSlash true))
  else ofForeign? scheme rest

/-! ## Writing -/

/-- The host, with what stands around it. -/
def authorityText (u : Url) (host : Host) : List Char :=
  (if u.login.isEmpty then [] else u.login ++ ['@']) ++ host.text ++
    match u.service with
    | some n => ':' :: (toString n).toList
    | none => []

/-- An address in its usual form. Without a host two slashes would begin one, so a dot is put before
them. -/
def text (u : Url) : List Char :=
  let front :=
    match u.host with
    | some host => '/' :: '/' :: u.authorityText host
    | none => if ['/', '/'].isPrefixOf u.path then ['/', '.'] else []
  let ends := (u.query.elim [] ('?' :: ·)) ++ (u.fragment.elim [] ('#' :: ·))
  u.scheme ++ ':' :: (front ++ u.path ++ ends)

/-- An address in its usual form, or as it is. -/
def shown (text : String) : String :=
  match parse? text with
  | some url => String.ofList url.text
  | none => text

/-! ## Requests -/

/-- Signs that may stand in a host for which a request is sent. -/
def isRequestChar (c : Char) : Bool :=
  c.isAlphanum || "!$&'()*+,-.:;=[]_~".toList.contains c

/-- The longest address for which a request is sent. -/
def longestRequest : Nat := 65534

/-- Whether a request can be sent for an address. -/
def isRequestable (u : Url) : Bool :=
  ["http", "https"].contains (String.ofList u.scheme) &&
    (u.host.elim false fun host => host.text.all isRequestChar) &&
    u.text.length ≤ longestRequest

/-- The number of the service to ask. -/
def serviceNumber (u : Url) : Nat :=
  u.service.getD ((usualService? u.scheme).getD 0)

/-- The path and query to ask for. A fragment is not part of them. -/
def target (u : Url) : List Char :=
  u.path ++ u.query.elim [] ('?' :: ·)

end Url

end SaslClient.Http
