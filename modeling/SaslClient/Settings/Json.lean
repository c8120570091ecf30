import SaslClient.Json.Quoted
import SaslClient.Json.Record
import SaslClient.Settings.Basic

/-!
# Settings as JSON

The four settings in an object. Reading wants all four, in any order, and passes over other fields;
the timeout is an object of seconds and nanoseconds with no other field. Both may also be lists of
their values in order.
-/

namespace SaslClient

namespace Timeout

/-- A timeout that is being read. -/
structure Draft where
  seconds : Option Nat := none
  nanoseconds : Option Nat := none

/-- How a timeout is read. -/
def shape : Json.Shape Draft Timeout where
  start := {}
  fields := [
    { name := "secs"
      isFilled := (·.seconds.isSome)
      read := fun d bs => do
        let (n, rest) ← Json.readNatural (UInt64.size - 1) bs
        .ok ({ d with seconds := some n }, rest) },
    { name := "nanos"
      isFilled := (·.nanoseconds.isSome)
      read := fun d bs => do
        let (n, rest) ← Json.readNatural (UInt32.size - 1) bs
        .ok ({ d with nanoseconds := some n }, rest) }]
  skipsOthers := false
  finish := fun d => do ofParts? (← d.seconds) (← d.nanoseconds)

/-- A timeout as a JSON object. -/
def json (t : Timeout) : String :=
  "\x7b\"secs\":" ++ toString t.seconds ++ ",\"nanos\":" ++ toString t.nanoseconds ++ "\x7d"

end Timeout

namespace Settings

/-- Settings that are being read. -/
structure Draft where
  metadataTimeout : Option Timeout := none
  containerBase : Option String := none
  instanceBase : Option String := none
  logLevel : Option String := none

/-- How settings are read. -/
def shape : Json.Shape Draft Settings where
  start := {}
  fields := [
    { name := "metadataTimeout"
      isFilled := (·.metadataTimeout.isSome)
      read := fun d bs => do
        let (t, rest) ← Json.readRecord Timeout.shape bs
        .ok ({ d with metadataTimeout := some t }, rest) },
    { name := "containerMetadataBase"
      isFilled := (·.containerBase.isSome)
      read := fun d bs => do
        let (s, rest) ← Json.readText bs
        .ok ({ d with containerBase := some s }, rest) },
    { name := "instanceMetadataBase"
      isFilled := (·.instanceBase.isSome)
      read := fun d bs => do
        let (s, rest) ← Json.readText bs
        .ok ({ d with instanceBase := some s }, rest) },
    { name := "logLevel"
      isFilled := (·.logLevel.isSome)
      read := fun d bs => do
        let (s, rest) ← Json.readText bs
        .ok ({ d with logLevel := some s }, rest) }]
  skipsOthers := true
  finish := fun d => do
    some ⟨← d.metadataTimeout, ← d.containerBase, ← d.instanceBase, ← d.logLevel⟩

/-- The settings that a JSON text holds, or the fault and its place. -/
def ofJson (text : String) : Except (Json.Category × Json.Location) Settings :=
  Json.parseRecord shape text

/-- The settings as a JSON text. -/
def json (s : Settings) : String :=
  "\x7b\"metadataTimeout\":" ++ s.metadataTimeout.json ++
    ",\"containerMetadataBase\":" ++ Json.quote s.containerBase ++
    ",\"instanceMetadataBase\":" ++ Json.quote s.instanceBase ++
    ",\"logLevel\":" ++ Json.quote s.logLevel ++ "\x7d"

end Settings

end SaslClient
