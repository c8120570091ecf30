import SaslClient.Text.DirectionTables

/-!
# Direction of writing

Which way text runs, character by character, and whether a stretch of text keeps to one direction.
Digits, marks and signs go along with letters of either kind, but a stretch begins with a letter and
ends with a letter or digit that carries its direction, apart from marks.
-/

namespace SaslClient.Text

/-- The direction of a character. -/
inductive Direction where
  | leftToRight
  | rightToLeft
  /-- Of a digit that fits either direction. -/
  | digit
  /-- Of a digit that runs with letters from right to left. -/
  | arabicDigit
  /-- Of a mark, which goes along with what it stands on. -/
  | mark
  /-- Of a sign, which goes along with what is around it. -/
  | neutral
deriving DecidableEq, Repr

/-- The direction of a character. -/
def direction (c : Char) : Direction :=
  if rightToLeft.contains c then .rightToLeft
  else if arabicDigits.contains c then .arabicDigit
  else if digits.contains c then .digit
  else if nonspacing.contains c then .mark
  else if neutral.contains c then .neutral
  else .leftToRight

/-- Whether a text has anything that runs from right to left. -/
def hasRightToLeft (cs : List Char) : Bool :=
  cs.any fun c => direction c = .rightToLeft || direction c = .arabicDigit

/-- Whether a text keeps to one direction, given by its first character. Of the two kinds of digits
it may have one only. -/
def hasOneDirection (cs : List Char) : Bool :=
  let directions := cs.map direction
  let last? := directions.reverse.find? (· ≠ .mark)
  match directions.head? with
  | none => true
  | some .leftToRight =>
    !directions.contains .rightToLeft && !directions.contains .arabicDigit &&
      (last? = some .leftToRight || last? = some .digit)
  | some .rightToLeft =>
    !directions.contains .leftToRight && last? ≠ some .neutral &&
      !(directions.contains .digit && directions.contains .arabicDigit)
  | some _ => false

end SaslClient.Text
