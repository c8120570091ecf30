/-!
# Timeouts

A span of time with nanosecond resolution, its seconds a number of 64 bits. A timeout has one
representation: what is left over from the whole seconds is less than a second.
-/

namespace SaslClient

/-- A span of time. -/
structure Timeout where
  seconds : Nat
  nanoseconds : Nat
  seconds_lt : seconds < UInt64.size := by decide
  nanoseconds_lt : nanoseconds < 1000000000 := by decide
deriving DecidableEq, Repr

namespace Timeout

/-- The timeout of so many nanoseconds, if it is not too long. -/
def ofNanoseconds? (n : Nat) : Option Timeout :=
  if h : n / 1000000000 < UInt64.size then
    some ⟨n / 1000000000, n % 1000000000, h, Nat.mod_lt _ (by decide)⟩
  else none

/-- The length in nanoseconds. -/
def totalNanoseconds (t : Timeout) : Nat :=
  t.seconds * 1000000000 + t.nanoseconds

/-- The timeout of so many seconds and nanoseconds; whole seconds among the latter are carried. -/
def ofParts? (seconds nanoseconds : Nat) : Option Timeout :=
  ofNanoseconds? (seconds * 1000000000 + nanoseconds)

/-- The timeout of so many milliseconds, if it is not too long. -/
def ofMilliseconds? (ms : Nat) : Option Timeout :=
  ofNanoseconds? (ms * 1000000)

/-- The length in whole milliseconds. -/
def milliseconds (t : Timeout) : Nat :=
  t.totalNanoseconds / 1000000

end Timeout

end SaslClient
