import SaslClient.Clock.Calendar

/-!
# Timestamps

An instant and its text in the form `yyyymmddThhmmssZ`, in universal time. Fractions of a second are
dropped towards the past.
-/

namespace SaslClient

/-- A point in time, in nanoseconds from the start of 1970, leap seconds not counted. -/
structure Instant where
  nanoseconds : Int
deriving DecidableEq, Repr

namespace Instant

/-- The instant so many milliseconds after the start of 1970. -/
def ofMilliseconds (ms : Int) : Instant :=
  ⟨ms * 1000000⟩

/-- The whole seconds from the start of 1970. -/
def seconds (t : Instant) : Int :=
  t.nanoseconds / 1000000000

/-- The calendar date of the instant. -/
def date (t : Instant) : Date :=
  Date.ofDays (t.seconds / 86400)

/-- The seconds since midnight. -/
def secondOfDay (t : Instant) : Nat :=
  (t.seconds % 86400).toNat

/-- The last year that a clock can tell. -/
def lastYear : Int := 262142

/-- Whether a clock can tell the instant: none before 1970, and none after the last year. -/
def isTold (t : Instant) : Bool :=
  0 ≤ t.seconds && t.date.year ≤ lastYear

end Instant

namespace Timestamp

/-- The last `width` decimal digits of a number. -/
def fixedDigits : (width n : Nat) → List Char
  | 0, _ => []
  | width + 1, n => fixedDigits width (n / 10) ++ [Nat.digitChar (n % 10)]

@[simp] theorem length_fixedDigits (width n : Nat) : (fixedDigits width n).length = width := by
  induction width generalizing n with
  | zero => rfl
  | succ width ih => simp [fixedDigits, ih]

/-- A year: four digits from 0 to 9999, and a sign with at least four digits outside. -/
def yearDigits (year : Int) : List Char :=
  let n := year.natAbs
  let digits := if n ≤ 9999 then fixedDigits 4 n else Nat.toDigits 10 n
  if year < 0 then '-' :: digits
  else if 9999 < year then '+' :: digits
  else digits

end Timestamp

/-- The text of an instant. -/
def Instant.timestamp (t : Instant) : String :=
  let d := t.date
  let s := t.secondOfDay
  String.ofList <|
    Timestamp.yearDigits d.year ++ Timestamp.fixedDigits 2 d.month ++
      Timestamp.fixedDigits 2 d.day ++ 'T' :: (Timestamp.fixedDigits 2 (s / 3600) ++
      Timestamp.fixedDigits 2 (s / 60 % 60) ++ Timestamp.fixedDigits 2 (s % 60) ++ ['Z'])

end SaslClient
