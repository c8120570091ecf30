import SaslClient.Http.Message
import SaslClient.Probe
import Std.Async.TCP
import Std.Async.Timer

/-!
# The command line

Probes the configuration of this process: the arguments, the variables, the clock, random bytes and
the network are fetched here, and everything else is `Probe.run`.
-/

namespace SaslClient.Main

open Std.Async Std.Net

/-- The variables of this process that are read. -/
def environment : IO Environment := do
  let values ← Probe.variableNames.mapM fun name => do return (name, ← IO.getEnv name)
  return .ofList (values.filterMap fun (name, value?) => value?.map fun value => (name, value))

/-- Random bytes for a nonce. -/
def randomNonce : IO Nonce := do
  let bytes ← IO.getRandomBytes Nonce.size.toUSize
  return (Nonce.ofBytes? bytes.data.toList).getD .counting

/-- The time now. -/
def now : IO Instant := do
  let t ← Std.Time.Timestamp.now
  return ⟨t.toNanosecondsSinceUnixEpoch.val⟩

/-- Sends a request and receives until the connection is closed. -/
def exchange (address : SocketAddress) (request : Bytes) (received : IO.Ref Bytes) :
    Async Http.Outcome := do
  let socket ← TCP.Socket.Client.mk
  try
    socket.connect address
  catch _ => return .unreachable
  try
    socket.send ⟨request.toArray⟩
    repeat
      match ← socket.recv? 65536 with
      | some bytes => received.modify (· ++ bytes.data.toList)
      | none => break
  catch _ => pure ()
  return Http.Message.outcome (← received.get) .closed

/-- A host that is given by a number of 32 bits. -/
def hostAddress (n : Nat) : IPv4Addr :=
  let part (shift : Nat) := UInt8.ofNat (n / shift)
  .ofParts (part 16777216) (part 65536) (part 256) (part 1)

/-- What comes of a request within a time. Only hosts that are given by number are asked, and not
over a secure connection. -/
def send (timeout : Timeout) (url : Http.Url) : IO Http.Outcome := do
  match url.host, url.scheme with
  | some (.four n), ['h', 't', 't', 'p'] =>
    let received ← IO.mkRef []
    let waited : Async Http.Outcome := do
      sleep (.ofInt timeout.milliseconds)
      return Http.Message.outcome (← received.get) .timedOut
    let server := .v4 ⟨hostAddress n, url.serviceNumber.toUInt16⟩
    let answered := exchange server (Http.Message.request url) received
    (Async.race answered waited).block
  | _, _ => return .unreachable

/-- What comes of asking for an address within a time. -/
def ask (timeout : Timeout) (address : String) : IO Http.Outcome := do
  match Http.Url.parse? address with
  | none => return .invalidAddress
  | some url => if url.isRequestable then send timeout url else return .unsupportedAddress

/-- The network as far as it was asked. -/
def network (known : List (String × Http.Outcome)) : Http.Network :=
  fun address => (known.lookup address).getD .unreachable

/-- Probes with what is known of the network, and asks for the first address that is needed and not
known, until none is. A fetch asks for two addresses at most. -/
def run (args : List String) : IO UInt32 := do
  let env ← environment
  let clientNonce ← randomNonce
  let serverPart ← randomNonce
  let client := Probe.client env
  let mut known := []
  repeat
    let instant ← now
    let surroundings : Surroundings :=
      { nonce := fun n => if n = 0 then clientNonce else serverPart
        clock := fun _ => instant
        source := client.source (network known) }
    let (result, usage) := (Probe.run args env).run surroundings {}
    let asked := if usage.fetches = 0 then [] else (client.fetch (network known)).asked
    match asked.find? fun address => (known.lookup address).isNone with
    | some address => known := (address, ← ask client.timeout address) :: known
    | none =>
      match result with
      | .ok signed =>
        IO.print signed.text
        return 0
      | .error failure =>
        if let some report := failure.report? then IO.eprint report.text
        return failure.exitCode.toUInt32
  return 1

end SaslClient.Main

/-- Probes the configuration of this process for the host that is the first argument. -/
def main (args : List String) : IO UInt32 :=
  SaslClient.Main.run args
