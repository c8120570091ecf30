import SaslClient.Text.CompositionTables

/-!
# Composed text

A base with a mark may be written as one character or as two. In composed text every base has taken
up the marks that there is a character for, and the marks that are left stand behind it in a fixed
order. The syllables of Hangul are composed of their letters by a rule.

A character that text is never composed of stays as it is.
-/

namespace SaslClient.Text

/-! ## Hangul -/

/-- The first syllable. -/
def firstSyllable : Nat := 0xAC00

/-- The first leading consonant. -/
def firstLeading : Nat := 0x1100

/-- The first vowel. -/
def firstVowel : Nat := 0x1161

/-- The place before the first final consonant. -/
def noFinal : Nat := 0x11A7

/-- The number of leading consonants. -/
def leadingCount : Nat := 19

/-- The number of vowels. -/
def vowelCount : Nat := 21

/-- The number of final consonants, with none for one of them. -/
def finalCount : Nat := 28

/-- Whether a code point is one of so many from a first one on. -/
def isWithin (first count n : Nat) : Bool :=
  first ≤ n && n < first + count

/-- Whether a code point is a syllable. -/
def isSyllable (n : Nat) : Bool :=
  isWithin firstSyllable (leadingCount * vowelCount * finalCount) n

/-- The syllable of two letters, or of a syllable without a final consonant and one. -/
def syllable? (a b : Nat) : Option Nat :=
  if isWithin firstLeading leadingCount a && isWithin firstVowel vowelCount b then
    some (firstSyllable + ((a - firstLeading) * vowelCount + (b - firstVowel)) * finalCount)
  else if isSyllable a && (a - firstSyllable) % finalCount = 0 &&
      isWithin (noFinal + 1) (finalCount - 1) b then
    some (a + (b - noFinal))
  else none

/-- The two parts of a syllable, the second of which is a letter. -/
def splitSyllable? (n : Nat) : Option (Nat × Nat) :=
  if isSyllable n then
    let place := n - firstSyllable
    let final := place % finalCount
    if final = 0 then
      let pair := place / finalCount
      some (firstLeading + pair / vowelCount, firstVowel + pair % vowelCount)
    else some (n - final, noFinal + final)
  else none

/-! ## Pairs -/

/-- The bases of a composition, each with its result. -/
def Composition.pairs (composition : Composition) : List (Char × Char) :=
  go composition.results.toList
where
  go : List Char → List (Char × Char)
    | base :: result :: rest => (base, result) :: go rest
    | _ => []

/-- The character that stands for two. -/
def compose? (a b : Char) : Option Char :=
  match syllable? a.toNat b.toNat with
  | some n => some (Char.ofNat n)
  | none =>
    (compositions.filter (·.second = b.toNat)).findSome? fun composition =>
      composition.pairs.lookup a

/-- The two characters that a character stands for. -/
def split? (c : Char) : Option (Char × Char) :=
  match splitSyllable? c.toNat with
  | some (a, b) => some (Char.ofNat a, Char.ofNat b)
  | none =>
    compositions.findSome? fun composition =>
      (composition.pairs.find? (·.2 = c)).map fun (base, _) => (base, Char.ofNat composition.second)

/-! ## Order -/

/-- The class of a mark. A base has class zero. -/
def orderClass (c : Char) : Nat :=
  ((orderClasses.find? (·.2.contains c)).map (·.1)).getD 0

/-- Puts a character behind others, which are given last first: a mark goes before the marks of
higher classes. -/
def putBehind (c : Char) : List Char → List Char
  | [] => [c]
  | d :: rest =>
    if 0 < orderClass c && orderClass c < orderClass d then d :: putBehind c rest
    else c :: d :: rest

/-- The marks behind each base in the order of their classes. -/
def order (cs : List Char) : List Char :=
  (cs.foldl (fun before c => putBehind c before) []).reverse

/-! ## Composing -/

/-- The most marks that a character stands for, besides its base. -/
def mostMarks : Nat := 3

/-- A character without so many of the marks that it has taken up, and those marks. -/
def parts : Nat → Char → List Char
  | 0, c => [c]
  | marks + 1, c =>
    match split? c with
    | some (base, mark) => parts marks base ++ [mark]
    | none => [c]

/-- Composes what is behind a base with it. `left` are the marks that were left behind it, last
first: one of their class or a higher one stands between a mark and the base. -/
def composeFrom (base : Char) (left : List Char) : List Char → List Char
  | [] => base :: left.reverse
  | c :: rest =>
    let isNext := match left with
      | [] => true
      | last :: _ => orderClass last < orderClass c
    match if isNext then compose? base c else none with
    | some composed => composeFrom composed left rest
    | none =>
      if orderClass c = 0 then base :: (left.reverse ++ composeFrom c [] rest)
      else composeFrom base (c :: left) rest

/-- The text with its bases and marks composed. -/
def composed (cs : List Char) : List Char :=
  match order (cs.flatMap (parts mostMarks)) with
  | [] => []
  | c :: rest => composeFrom c [] rest

end SaslClient.Text
