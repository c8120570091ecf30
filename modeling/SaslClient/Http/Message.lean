import SaslClient.Http.Exchange
import SaslClient.Text.Blank
import SaslClient.Text.Utf8

/-!
# HTTP messages

The bytes of a request, and what the bytes received in answer come to. Requests are of version 1.0
with the connection closed behind the answer, so a body ends where its announced length or else the
connection does.
-/

namespace SaslClient.Http.Message

/-- The bytes of a text. -/
def encodeChars (cs : List Char) : Bytes :=
  Utf8.encode (String.ofList cs)

/-- The request for an address. -/
def request (url : Url) : Bytes :=
  Utf8.encode "GET " ++ encodeChars url.target ++ Utf8.encode " HTTP/1.0\r\nHost: " ++
    encodeChars (url.host.elim [] fun host => { url with login := [] }.authorityText host) ++
    Utf8.encode "\r\nAccept: */*\r\nConnection: close\r\n\r\n"

/-- How receiving ended. -/
inductive Ending where
  /-- The connection was closed. -/
  | closed
  /-- The time was over. -/
  | timedOut
deriving DecidableEq, Repr

/-- A line without its carriage return, from its characters in reverse. -/
def finishLine : List Char → List Char
  | '\r' :: reversed => reversed.reverse
  | reversed => reversed.reverse

/-- The lines before the first empty one and the bytes behind it; `line` holds what was read of the
current line, in reverse, and `lines` the lines before. -/
def splitHead (line : List Char) (lines : List (List Char)) :
    Bytes → Option (List (List Char) × Bytes)
  | [] => none
  | b :: rest =>
    if b = 10 then
      match finishLine line with
      | [] => some (lines.reverse, rest)
      | finished => splitHead [] (finished :: lines) rest
    else splitHead (Char.ofNat b.toNat :: line) lines rest

/-- The code of a status line. -/
def status? (line : List Char) : Option Status := do
  let code ← (line.splitOn ' ')[1]?
  some ⟨← Text.readCount? 1000 code⟩

/-- The value of a header line, if it has the given lower-case name. -/
def headerValue? (name : List Char) (line : List Char) : Option (List Char) :=
  let isName := (line.takeWhile (· != ':')).map Char.toLower == name
  if isName then some (Text.trimChars ((line.dropWhile (· != ':')).drop 1)) else none

/-- The announced length of a body. -/
def contentLength? (lines : List (List Char)) : Option Nat := do
  Text.readCount? UInt64.size (← lines.findSome? (headerValue? "content-length".toList))

/-- The text of a body. A byte that is not UTF-8 becomes a replacement character. -/
def bodyText : (rounds : Nat) → Bytes → List Char
  | 0, _ => []
  | _, [] => []
  | rounds + 1, b :: rest =>
    let char? (n : Nat) : Option (Char × Nat) := do
      match (← Utf8.decode ((b :: rest).take n)).toList with
      | [c] => some (c, n)
      | _ => none
    match [1, 2, 3, 4].findSome? char? with
    | some (c, n) => c :: bodyText rounds ((b :: rest).drop n)
    | none => '\ufffd' :: bodyText rounds rest

/-- What becomes of a body of which these bytes were received. -/
def body (announced : Option Nat) (received : Bytes) (ending : Ending) : Body :=
  let text (bs : Bytes) : Body := .text (String.ofList (bodyText bs.length bs))
  match announced, ending with
  | some n, .closed => if n ≤ received.length then text (received.take n) else .broken
  | some n, .timedOut => if n ≤ received.length then text (received.take n) else .stalled
  | none, .closed => text received
  | none, .timedOut => .stalled

/-- What the bytes received in answer come to. -/
def outcome (received : Bytes) (ending : Ending) : Outcome :=
  match splitHead [] [] received with
  | some (first :: headers, rest) =>
    match status? first with
    | some status => .answered status (body (contentLength? headers) rest ending)
    | none => .noAnswer
  | _ =>
    match ending with
    | .closed => .noAnswer
    | .timedOut => .timedOut

end SaslClient.Http.Message
