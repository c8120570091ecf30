/-!
# Sets of code points

A set is given by the ascending list of the code points where membership changes; below the first
of them nothing is a member.
-/

namespace SaslClient.Text

/-- A set of code points. -/
structure CodeSet where
  changes : List Nat

/-- A code point is a member when membership has changed an odd number of times up to it. -/
def CodeSet.contains (set : CodeSet) (c : Char) : Bool :=
  set.changes.countP (· ≤ c.toNat) % 2 == 1

end SaslClient.Text
