import SaslClient.Bytes.Hex
import SaslClient.Text.Count

/-!
# Hosts by number

A host may be given by a number of 32 bits, in up to four parts between points, or by eight groups
of 16 bits between colons. A part of the first kind may be decimal, octal or hexadecimal, and the
last one fills all the places that are left. Of the groups one run of zeros may be left out.
-/

namespace SaslClient.Http

/-! ## Four parts -/

namespace FourPart

/-- The number that digits of a base stand for. -/
def digitsValue (base : Nat) (digits : List Char) : Nat :=
  digits.foldl (fun n c => base * n + Hex.value c) 0

/-- The number that a part stands for. A leading zero makes it octal, and `0x` hexadecimal. -/
def part? (cs : List Char) : Option Nat :=
  let read (base : Nat) (isDigit : Char → Bool) (digits : List Char) :=
    if digits.all isDigit then some (digitsValue base digits) else none
  match cs with
  | [] => none
  | '0' :: 'x' :: digits => read 16 Hex.isDigit digits
  | '0' :: 'X' :: digits => read 16 Hex.isDigit digits
  | '0' :: c :: digits => read 8 (fun d => '0' ≤ d && d ≤ '7') (c :: digits)
  | digits => read 10 Text.isDigit digits

/-- The parts between the points of a name; a point at the end separates nothing. -/
def parts (name : List Char) : List (List Char) :=
  let parts := name.splitOn '.'
  if parts.getLast? = some [] then parts.dropLast else parts

/-- Whether a name ends in a number, so that it can be no name. -/
def endsInNumber (name : List Char) : Bool :=
  match (parts name).getLast? with
  | some part => (!part.isEmpty && part.all Text.isDigit) || (part? part).isSome
  | none => false

/-- The number of 32 bits that parts stand for. -/
def combine? (numbers : List Nat) : Option Nat := do
  let last ← numbers.getLast?
  let front := numbers.dropLast
  let value := front.foldl (fun n part => 256 * n + part) 0
  let room := [4294967296, 16777216, 65536, 256][front.length]?
  if front.all (· < 256) && last < (← room) then some (value * (← room) + last) else none

/-- The host that a name ending in a number stands for. -/
def ofName? (name : List Char) : Option Nat := do
  combine? (← (parts name).mapM part?)

/-- The four decimal parts of a host. -/
def text (host : Nat) : List Char :=
  let part (shift : Nat) := (toString (host / shift % 256)).toList
  part 16777216 ++ '.' :: part 65536 ++ '.' :: part 256 ++ '.' :: part 1

end FourPart

/-! ## Eight groups -/

namespace EightGroup

/-- The group that up to four hexadecimal digits stand for. -/
def group? (cs : List Char) : Option Nat :=
  if !cs.isEmpty && cs.length ≤ 4 && cs.all Hex.isDigit then
    some (FourPart.digitsValue 16 cs)
  else none

/-- A decimal part up to 255, without leading zeros. -/
def decimal? (cs : List Char) : Option Nat :=
  if cs.isEmpty || !cs.all Text.isDigit || (cs.length != 1 && cs.head? = some '0') then none
  else
    let n := Text.digitsValue cs
    if n < 256 then some n else none

/-- The two groups that four decimal parts stand for. -/
def tail? (cs : List Char) : Option (List Nat) := do
  match ← (cs.splitOn '.').mapM decimal? with
  | [a, b, c, d] => some [256 * a + b, 256 * c + d]
  | _ => none

/-- The groups between colons. In the last place four decimal parts may stand for two groups. -/
def groups? (allowsTail : Bool) : List (List Char) → Option (List Nat)
  | [] => some []
  | [last] =>
    match group? last with
    | some group => some [group]
    | none => if allowsTail then tail? last else none
  | cs :: rest => do return (← group? cs) :: (← groups? allowsTail rest)

/-- The text before the first two colons in a row and the text behind them. -/
def splitGap : List Char → Option (List Char × List Char)
  | [] => none
  | ':' :: ':' :: rest => some ([], rest)
  | c :: rest => (splitGap rest).map fun (front, back) => (c :: front, back)

/-- The groups of one side of a gap, which may be empty. -/
def side? (allowsTail : Bool) (cs : List Char) : Option (List Nat) :=
  if cs.isEmpty then some [] else groups? allowsTail (cs.splitOn ':')

/-- The eight groups that a text stands for. -/
def ofText? (cs : List Char) : Option (List Nat) := do
  match splitGap cs with
  | none =>
    let groups ← groups? true (cs.splitOn ':')
    if groups.length = 8 then some groups else none
  | some (front, back) =>
    let front ← side? false front
    let back ← side? true back
    let count := front.length + back.length
    if count < 8 then some (front ++ List.replicate (8 - count) 0 ++ back) else none

/-- The length of the run of zeros at the front. -/
def zeros (groups : List Nat) : Nat :=
  (groups.takeWhile (· == 0)).length

/-- Where the longest run of zeros begins and how long it is; the first of equals. -/
def longestZeros (index : Nat) : List Nat → Nat × Nat
  | [] => (index, 0)
  | group :: rest =>
    let here := zeros (group :: rest)
    let later := longestZeros (index + 1) rest
    if later.2 ≤ here then (index, here) else later

/-- A group in hexadecimal digits without leading zeros. -/
def groupText (n : Nat) : List Char :=
  let digits := (Hex.digits [UInt8.ofNat (n / 256), UInt8.ofNat n]).dropWhile (· == '0')
  if digits.isEmpty then ['0'] else digits

/-- Groups between colons. -/
def joined (groups : List Nat) : List Char :=
  [':'].intercalate (groups.map groupText)

/-- The text of eight groups, with the longest run of zeros left out, if there are two or more. -/
def text (groups : List Nat) : List Char :=
  let (first, length) := longestZeros 0 groups
  if length < 2 then joined groups
  else joined (groups.take first) ++ [':', ':'] ++ joined (groups.drop (first + length))

end EightGroup

end SaslClient.Http
