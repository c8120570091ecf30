import SaslClient.Document.Double
import SaslClient.Json.Fault
import SaslClient.Text.Utf8

/-!
# JSON tokens

Blanks, words, numbers and strings. Strings and numbers can be read, or skipped with less checking:
a skipped string may hold surrogates that pair with nothing, and a skipped number may be too great
for a double.
-/

namespace SaslClient.Json

/-- The byte of an ASCII character. -/
def byte (c : Char) : UInt8 :=
  UInt8.ofNat c.toNat

/-- The text without the blanks in front. -/
def skipBlanks (bs : Bytes) : Bytes :=
  bs.dropWhile fun b => b == 0x20 || b == 0x0A || b == 0x0D || b == 0x09

/-- The rest behind a word that has to stand here. -/
def expectWord : (word : List Char) → Bytes → Except Fault Bytes
  | [], bs => .ok bs
  | _ :: _, [] => .error ⟨.ended, []⟩
  | c :: word, b :: bs => if b = byte c then expectWord word bs else .error ⟨.malformed, bs⟩

/-- Whether a byte is a decimal digit. -/
def isDigit (b : UInt8) : Bool :=
  byte '0' ≤ b && b ≤ byte '9'

/-- The value of a decimal digit. -/
def digitValue (b : UInt8) : Nat :=
  b.toNat - 48

/-! ## Numbers -/

/-- A number that was read: a natural number of 64 bits, a negative one of 63, or anything else. -/
inductive Number where
  | natural (n : Nat)
  | negative (n : Nat)
  | real
deriving DecidableEq, Repr

/-- The greatest natural number of 64 bits. -/
def maxNatural : Nat := UInt64.size - 1

/-- The digits appended to a number as long as it keeps to 64 bits, and those that are left. -/
def accumulate (n : Nat) : Bytes → Nat × Bytes
  | [] => (n, [])
  | d :: digits =>
    let next := n * 10 + digitValue d
    if maxNatural < next then (n, d :: digits) else accumulate next digits

/-- Whether `significand * 10 ^ exponent`, computed in doubles, is infinite. -/
def isInfinite (significand : Nat) (exponent : Int) : Bool :=
  significand != 0 && 0 ≤ exponent &&
    (308 < exponent ||
      Double.overflows (Double.nearest significand * Double.nearest (Nat.pow 10 exponent.toNat)))

/-- A real number that has been read up to `rest`. -/
def closeReal (significand : Nat) (exponent : Int) (rest : Bytes) : Except Fault (Number × Bytes) :=
  if isInfinite significand exponent then .error ⟨.malformed, rest⟩ else .ok (.real, rest)

/-- The greatest exponent that is told apart. -/
def maxExponent : Nat := 0x7FFFFFFF

/-- The digits of an exponent behind its first ones, whose value is `value`. -/
def readExponentDigits (significand : Nat) (start : Int) (up : Bool) (value : Nat) :
    Bytes → Except Fault (Number × Bytes)
  | [] => closeReal significand (if up then start + value else start - value) []
  | b :: rest =>
    if isDigit b then
      let next := value * 10 + digitValue b
      if maxExponent < next then
        if significand != 0 && up then .error ⟨.malformed, rest⟩
        else .ok (.real, rest.dropWhile isDigit)
      else readExponentDigits significand start up next rest
    else closeReal significand (if up then start + value else start - value) (b :: rest)

/-- An exponent, behind its letter. -/
def readExponent (significand : Nat) (start : Int) (bs : Bytes) :
    Except Fault (Number × Bytes) :=
  let (up, bs) :=
    match bs with
    | b :: rest => if b = byte '+' then (true, rest) else if b = byte '-' then (false, rest)
      else (true, b :: rest)
    | [] => (true, [])
  match bs with
  | [] => .error ⟨.ended, []⟩
  | b :: rest =>
    if isDigit b then readExponentDigits significand start up (digitValue b) rest
    else .error ⟨.malformed, rest⟩

/-- Whether a byte starts an exponent. -/
def isExponentMark (b : UInt8) : Bool :=
  b == byte 'e' || b == byte 'E'

/-- The decimal places of a number, behind the point. Places beyond 64 bits are not counted. -/
def readPlaces (significand : Nat) (start : Int) (bs : Bytes) : Except Fault (Number × Bytes) :=
  let digits := bs.takeWhile isDigit
  let rest := bs.dropWhile isDigit
  if digits.isEmpty then
    .error (Fault.ahead (if bs.isEmpty then .ended else .malformed) bs)
  else
    let (significand, left) := accumulate significand digits
    let exponent := start - (digits.length - left.length : Nat)
    match rest with
    | b :: after =>
      if isExponentMark b then readExponent significand exponent after
      else closeReal significand exponent rest
    | [] => closeReal significand exponent rest

/-- A number without its sign. -/
def readNumber (isNegative : Bool) (bs : Bytes) : Except Fault (Number × Bytes) :=
  match bs with
  | [] => .error ⟨.ended, []⟩
  | first :: after =>
    if !isDigit first then .error ⟨.malformed, after⟩
    else if first = byte '0' && (after.head?.any isDigit) then
      .error (Fault.ahead .malformed after)
    else
      let (significand, left) := accumulate 0 (bs.takeWhile isDigit)
      let rest := bs.dropWhile isDigit
      let whole : Except Fault (Number × Bytes) :=
        if !left.isEmpty then closeReal significand left.length rest
        else if !isNegative then .ok (.natural significand, rest)
        else if significand = 0 ∨ 0x8000000000000000 < significand then .ok (.real, rest)
        else .ok (.negative significand, rest)
      match rest with
      | b :: after =>
        if b = byte '.' then readPlaces significand left.length after
        else if isExponentMark b then readExponent significand left.length after
        else whole
      | [] => whole

/-- The rest behind an exponent, behind its letter. -/
def skipExponent (bs : Bytes) : Except Fault Bytes :=
  let bs :=
    match bs with
    | b :: rest => if b = byte '+' || b = byte '-' then rest else b :: rest
    | [] => []
  match bs with
  | [] => .error ⟨.malformed, []⟩
  | b :: rest => if isDigit b then .ok (rest.dropWhile isDigit) else .error ⟨.malformed, rest⟩

/-- The rest behind the decimal places and exponent of a number, if it has any. -/
def skipPlaces (bs : Bytes) : Except Fault Bytes :=
  match bs with
  | [] => .ok []
  | b :: after =>
    if b = byte '.' then
      if after.head?.any isDigit then
        match after.dropWhile isDigit with
        | [] => .ok []
        | mark :: rest => if isExponentMark mark then skipExponent rest else .ok (mark :: rest)
      else .error (Fault.ahead .malformed after)
    else if isExponentMark b then skipExponent after
    else .ok bs

/-- The rest behind a number without its sign. -/
def skipNumber (bs : Bytes) : Except Fault Bytes :=
  match bs with
  | [] => .error ⟨.malformed, []⟩
  | first :: after =>
    if !isDigit first then .error ⟨.malformed, after⟩
    else if first = byte '0' && (after.head?.any isDigit) then
      .error (Fault.ahead .malformed after)
    else skipPlaces (bs.dropWhile isDigit)

/-! ## Strings -/

/-- The value of a hexadecimal digit of either case. -/
def hexValue? (b : UInt8) : Option Nat :=
  if isDigit b then some (digitValue b)
  else if byte 'a' ≤ b ∧ b ≤ byte 'f' then some (b.toNat - 87)
  else if byte 'A' ≤ b ∧ b ≤ byte 'F' then some (b.toNat - 55)
  else none

/-- Four hexadecimal digits. -/
def readUnit (bs : Bytes) : Except Fault (Nat × Bytes) :=
  match bs with
  | a :: b :: c :: d :: rest =>
    match hexValue? a, hexValue? b, hexValue? c, hexValue? d with
    | some a, some b, some c, some d => .ok (((a * 16 + b) * 16 + c) * 16 + d, rest)
    | _, _, _, _ => .error ⟨.malformed, rest⟩
  | _ => .error ⟨.ended, []⟩

/-- The bytes of a code point. -/
def codePoint (n : Nat) : Bytes :=
  Utf8.encode (String.singleton (Char.ofNat n))

/-- An escaped code unit, behind its letter; a leading surrogate needs its other half. -/
def readUnitEscape (bs : Bytes) : Except Fault (Bytes × Bytes) := do
  let (unit, rest) ← readUnit bs
  if 0xDC00 ≤ unit ∧ unit ≤ 0xDFFF then .error ⟨.malformed, rest⟩
  else if unit < 0xD800 ∨ 0xDBFF < unit then .ok (codePoint unit, rest)
  else
    match rest with
    | [] => .error ⟨.ended, []⟩
    | b :: rest =>
      if b ≠ byte '\\' then .error ⟨.malformed, rest⟩
      else
        match rest with
        | [] => .error ⟨.ended, []⟩
        | b :: rest =>
          if b ≠ byte 'u' then .error ⟨.malformed, rest⟩
          else
            let (trail, rest) ← readUnit rest
            if trail < 0xDC00 ∨ 0xDFFF < trail then .error ⟨.malformed, rest⟩
            else .ok (codePoint ((unit - 0xD800) * 0x400 + (trail - 0xDC00) + 0x10000), rest)

/-- The byte that a one-letter escape stands for. -/
def simpleEscape? (b : UInt8) : Option UInt8 :=
  if b = byte '"' ∨ b = byte '\\' ∨ b = byte '/' then some b
  else if b = byte 'b' then some 0x08
  else if b = byte 'f' then some 0x0C
  else if b = byte 'n' then some 0x0A
  else if b = byte 'r' then some 0x0D
  else if b = byte 't' then some 0x09
  else none

/-- What an escape stands for, behind its backslash. -/
def readEscape : Bytes → Except Fault (Bytes × Bytes)
  | [] => .error ⟨.ended, []⟩
  | b :: rest =>
    match simpleEscape? b with
    | some c => .ok ([c], rest)
    | none => if b = byte 'u' then readUnitEscape rest else .error ⟨.malformed, rest⟩

/-- The bytes of a string, behind its opening quote; no string takes more rounds than bytes. -/
def readStringBytes : (rounds : Nat) → Bytes → Except Fault (Bytes × Bytes)
  | _, [] => .error ⟨.ended, []⟩
  | 0, b :: rest => .error ⟨.malformed, b :: rest⟩
  | rounds + 1, b :: rest =>
    if b = byte '"' then .ok ([], rest)
    else if b = byte '\\' then do
      let (bytes, rest) ← readEscape rest
      let (more, rest) ← readStringBytes rounds rest
      .ok (bytes ++ more, rest)
    else if b < 0x20 then .error ⟨.malformed, rest⟩
    else do
      let (more, rest) ← readStringBytes rounds rest
      .ok (b :: more, rest)

/-- A string, behind its opening quote. -/
def readString (bs : Bytes) : Except Fault (String × Bytes) := do
  let (bytes, rest) ← readStringBytes bs.length bs
  match Utf8.decode bytes with
  | some s => .ok (s, rest)
  | none => .error ⟨.malformed, rest⟩

/-- The rest behind an escape, behind its backslash. -/
def skipEscape : Bytes → Except Fault Bytes
  | [] => .error ⟨.ended, []⟩
  | b :: rest =>
    if (simpleEscape? b).isSome then .ok rest
    else if b = byte 'u' then (·.2) <$> readUnit rest
    else .error ⟨.malformed, rest⟩

/-- The rest behind a string, in at most so many rounds, behind its opening quote. -/
def skipStringRounds : (rounds : Nat) → Bytes → Except Fault Bytes
  | _, [] => .error ⟨.ended, []⟩
  | 0, b :: rest => .error ⟨.malformed, b :: rest⟩
  | rounds + 1, b :: rest =>
    if b = byte '"' then .ok rest
    else if b = byte '\\' then do skipStringRounds rounds (← skipEscape rest)
    else if b < 0x20 then .error ⟨.malformed, b :: rest⟩
    else skipStringRounds rounds rest

/-- The rest behind a string, behind its opening quote. -/
def skipString (bs : Bytes) : Except Fault Bytes :=
  skipStringRounds bs.length bs

end SaslClient.Json
