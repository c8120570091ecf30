import SaslClient.Http.NameTables
import SaslClient.Http.Punycode
import SaslClient.Text.Case
import SaslClient.Text.Composition
import SaslClient.Text.Direction
import SaslClient.Text.DisplayTables

/-!
# Names of hosts

A name is a row of labels between points. It is read in lower case and composed, with the plain
characters that others stand for and without the characters that are ignored. A label beyond ASCII
goes out in Punycode behind `xn--`, and such a label must stand for a label that would be written
that way.

A name with letters that run from right to left keeps each label to one direction.
-/

namespace SaslClient.Http.Name

/-- What stands in front of a label in Punycode. -/
def punycodeMark : List Char := ['x', 'n', '-', '-']

/-- Characters of ASCII that no name has. -/
def isForbidden (c : Char) : Bool :=
  c.toNat ≤ 0x20 || c.toNat = 0x7F || "%#/:<>?@[\\]^|".toList.contains c

/-- Whether a character is of ASCII. -/
def isPlain (c : Char) : Bool :=
  c.toNat < 0x80

/-- The invisible character that keeps letters apart. -/
def nonJoiner : Char := Char.ofNat 0x200C

/-- The invisible character that joins letters. -/
def joiner : Char := Char.ofNat 0x200D

/-- Whether a character may stand in a name as it is written. A plain one may be part of another
character. -/
def isAccepted (c : Char) : Bool :=
  isPlain c || c = nonJoiner || c = joiner || ignored.contains c ||
    (!Text.unprintable.contains c && !refusedSigns.contains c)

/-- What a character is read as, if that is not its lower-case form. -/
def replacement? (c : Char) : Option (List Char) := do
  let row ← (replacements.takeWhile (·.first ≤ c.toNat)).getLast?
  (row.texts.toList.splitOn ' ')[c.toNat - row.first]?

/-- What a character of a name is read as. -/
def readChar (c : Char) : List Char :=
  if ignored.contains c then [] else (replacement? c).getD (Text.lowerChar c)

/-- A text as it is read. -/
def read (cs : List Char) : List Char :=
  Text.composed (cs.flatMap readChar)

/-! ## Labels -/

/-- Whether a character is a mark, so that no label begins with it. -/
def isMark (c : Char) : Bool :=
  Text.nonspacing.contains c || spacingMarks.contains c

/-- Whether an invisible joiner may stand between two texts, the first of which is given last first:
behind a virama, or, if it keeps letters apart, between letters that join but for it. -/
def fitsBetween (c : Char) (before after : List Char) : Bool :=
  let letter? (cs : List Char) := cs.find? fun d => !Text.nonspacing.contains d
  before.head?.any viramas.contains ||
    (c = nonJoiner && (letter? before).any joinsNext.contains &&
      (letter? after).any joinsBefore.contains)

/-- Whether every invisible joiner may stand where it stands, behind a text that is given last
first. -/
def joinersFit (before : List Char) : List Char → Bool
  | [] => true
  | c :: after =>
    ((c ≠ nonJoiner && c ≠ joiner) || fitsBetween c before after) && joinersFit (c :: before) after

/-- Whether a label of characters beyond ASCII is one. -/
def isInternational (label : List Char) : Bool :=
  label.all isAccepted && !(label.head?.any isMark) && joinersFit [] label

/-- The label that a label stands for, if it stands for one. -/
def meaning? (label : List Char) : Option (List Char) :=
  if punycodeMark.isPrefixOf label then do
    let meaning ← Punycode.decode? (label.drop punycodeMark.length)
    if label.all isPlain && !meaning.all isPlain && read meaning = meaning &&
        isInternational meaning then
      some meaning
    else none
  else if label.all isPlain || isInternational label then some label
  else none

/-- A label as it goes out. -/
def outgoing (meaning : List Char) : List Char :=
  if meaning.all isPlain then meaning else punycodeMark ++ Punycode.encode meaning

/-- The name that a text stands for, as it goes out. -/
def ofText? (cs : List Char) : Option (List Char) := do
  if !cs.all isAccepted then none
  let meanings ← ((read cs).splitOn '.').mapM meaning?
  if meanings.any Text.hasRightToLeft && !meanings.all Text.hasOneDirection then none
  let name := ['.'].intercalate (meanings.map outgoing)
  if name.isEmpty || name.any isForbidden then none else some name

end SaslClient.Http.Name
