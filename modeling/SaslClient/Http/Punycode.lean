import SaslClient.Text.Count

/-!
# Punycode

Characters beyond ASCII written with letters and digits. In front stand the characters of ASCII, and
behind the last hyphen numbers that tell, in ascending order of the other characters, how many
places and characters lie between one and the next. The numbers have digits of varying weight, and
how fast the weights grow adapts to the sizes of the numbers before.
-/

namespace SaslClient.Http.Punycode

/-- The number of digits, and the step between two thresholds. -/
def base : Nat := 36

/-- The first character that is not of ASCII. -/
def firstOther : Nat := 128

/-- The bias before the first number. -/
def firstBias : Nat := 72

/-- The digit for a number below `base`: letters come first. -/
def digitOf (n : Nat) : Char :=
  if n < 26 then Char.ofNat (97 + n) else Char.ofNat (22 + n)

/-- The number that a digit stands for, in either letter case. -/
def digitValue? (c : Char) : Option Nat :=
  if Text.isDigit c then some (c.toNat - 22)
  else if c.isAlpha then some (c.toLower.toNat - 97)
  else none

/-- The least digit that lets a number go on, at a position. -/
def threshold (bias position : Nat) : Nat :=
  if position ≤ bias then 1 else if bias + 26 ≤ position then 26 else position - bias

/-- Brings a number down to what one digit can express, and counts the steps. -/
def shrink (n steps : Nat) : Nat × Nat :=
  if _h : 455 < n then shrink (n / 35) (steps + base) else (n, steps)
termination_by n
decreasing_by omega

/-- The bias behind a number, with so many characters written so far. -/
def adapt (n count : Nat) (isFirst : Bool) : Nat :=
  let halved := if isFirst then n / 700 else n / 2
  let (small, steps) := shrink (halved + halved / count) 0
  steps + 36 * small / (small + 38)

/-! ## Reading -/

/-- How far the reading is: the characters so far, and the number that is being read. -/
structure Decoding where
  chars : List Nat
  /-- The least character that can come next. -/
  next : Nat := firstOther
  bias : Nat := firstBias
  /-- The place behind the character that was put in last. -/
  place : Nat := 0
  number : Nat := 0
  /-- What the next digit counts in the number. -/
  weight : Nat := 1
  /-- Where the next digit stands in the number, in steps of `base`. -/
  position : Nat := base
deriving DecidableEq, Repr

/-- Reads one digit. -/
def Decoding.step (d : Decoding) (c : Char) : Option Decoding := do
  let digit ← digitValue? c
  let number := d.number + digit * d.weight
  let least := threshold d.bias d.position
  if least ≤ digit then
    some { d with number, weight := d.weight * (base - least), position := d.position + base }
  else
    let count := d.chars.length + 1
    let total := d.place + number
    let next := d.next + total / count
    let place := total % count
    if next.isValidChar then
      some
        { chars := d.chars.take place ++ next :: d.chars.drop place
          next
          bias := adapt number count (d.place == 0)
          place := place + 1 }
    else none

/-- The text that a text stands for, if it stands for one. -/
def decode? (cs : List Char) : Option (List Char) := do
  let plain := ((cs.reverse.dropWhile (· != '-')).drop 1).reverse
  let digits := (cs.reverse.takeWhile (· != '-')).reverse
  let d ← digits.foldlM Decoding.step { chars := plain.map Char.toNat }
  if d.position = base then some (d.chars.map Char.ofNat) else none

/-! ## Writing -/

/-- The digits of a number under a bias. -/
def digits (bias : Nat) : (rounds : Nat) → (position n : Nat) → List Char
  | 0, _, _ => []
  | rounds + 1, position, n =>
    let least := threshold bias position
    if n < least then [digitOf n]
    else
      let span := base - least
      digitOf (least + (n - least) % span) ::
        digits bias rounds (position + base) ((n - least) / span)

/-- How far the writing is. -/
structure Encoding where
  written : List Char
  /-- How many places were passed since the last number. -/
  number : Nat := 0
  bias : Nat := firstBias
  /-- How many characters are accounted for. -/
  count : Nat
  isFirst : Bool := true
deriving DecidableEq, Repr

/-- Passes one character of the text, where the character `next` is written. -/
def Encoding.pass (next : Nat) (e : Encoding) (c : Char) : Encoding :=
  if c.toNat < next then { e with number := e.number + 1 }
  else if c.toNat = next then
    { written := e.written ++ digits e.bias (e.number + 1) base e.number
      bias := adapt e.number (e.count + 1) e.isFirst
      count := e.count + 1
      isFirst := false }
  else e

/-- Writes all places of one character, when all below `from` are written. -/
def Encoding.write (text : List Char) (e : Encoding × Nat) (next : Nat) : Encoding × Nat :=
  let passed := { e.1 with number := e.1.number + (next - e.2) * (e.1.count + 1) }
  let after := text.foldl (Encoding.pass next) passed
  ({ after with number := after.number + 1 }, next + 1)

/-- A text written in ASCII. -/
def encode (cs : List Char) : List Char :=
  let plain := cs.filter (·.toNat < firstOther)
  let others := ((cs.map Char.toNat).filter (firstOther ≤ ·)).mergeSort.eraseDups
  let front := if plain.isEmpty then [] else plain ++ ['-']
  let start : Encoding := { written := [], count := plain.length }
  front ++ (others.foldl (Encoding.write cs) (start, firstOther)).1.written

end SaslClient.Http.Punycode
