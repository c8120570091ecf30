/-!
# Doubles

A double is kept as its 64 IEEE 754 bits, so that it survives reading and writing whatever it
stands for. The operations here are the few that look inside.

* `ofInt`: the double nearest to an integer, a half going to the even neighbour.
* `same`: numeric equality, in which a NaN differs from everything and the zeros agree.
-/

namespace SaslClient

/-- A double by its bits. -/
structure Double where
  bits : UInt64
deriving DecidableEq, Repr, Inhabited

namespace Double

/-- The double `1`. -/
def one : Double := ⟨0x3FF0000000000000⟩

/-- The double just below `1`. -/
def belowOne : Double := ⟨0x3FEFFFFFFFFFFFFF⟩

/-- The bits without the sign. -/
def magnitude (d : Double) : Nat :=
  d.bits.toNat % 0x8000000000000000

/-- Whether the double is not a number. -/
def isNaN (d : Double) : Bool :=
  0x7FF0000000000000 < d.magnitude

/-- Whether the double is one of the two zeros. -/
def isZero (d : Double) : Bool :=
  d.magnitude == 0

/-- Numeric equality. -/
def same (a b : Double) : Bool :=
  !a.isNaN && !b.isNaN && (a == b || (a.isZero && b.isZero))

/-- The number `n` shifted right by `k` places and rounded to the nearest integer, a half to the
even one. -/
def roundShift (n k : Nat) : Nat :=
  let unit := 1 <<< k
  let quotient := n / unit
  let remainder := n % unit
  if 2 * remainder < unit then quotient
  else if 2 * remainder = unit ∧ quotient % 2 = 0 then quotient
  else quotient + 1

/-- The bit above the 52 stored ones of a significand. -/
def hiddenBit : Nat := 0x10000000000000

/-- The bits of the double nearest to a natural number below `2 ^ 1023`. A rounded significand of
`2 ^ 53` carries into the exponent, which is the right neighbour. -/
def bitsOfNat (n : Nat) : Nat :=
  if n = 0 then 0
  else
    let e := n.log2
    let significand := if e ≤ 52 then n <<< (52 - e) else roundShift n (e - 52)
    (e + 1022) * hiddenBit + significand

/-- A natural number rounded to the 53 significant bits of a double. -/
def nearest (n : Nat) : Nat :=
  if n.log2 ≤ 52 then n else roundShift n (n.log2 - 52) <<< (n.log2 - 52)

/-- Whether a natural number rounds to infinity: it is half a unit above the greatest double, or
more. -/
def overflows (n : Nat) : Bool :=
  (1 <<< 1024) - (1 <<< 970) ≤ n

/-- The double nearest to an integer. -/
def ofInt (i : Int) : Double :=
  let sign := if i < 0 then 0x8000000000000000 else 0
  ⟨UInt64.ofNat (sign + bitsOfNat i.natAbs)⟩

end Double

end SaslClient
