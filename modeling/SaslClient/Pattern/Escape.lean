import SaslClient.Bytes.Hex
import SaslClient.Pattern.Outline
import SaslClient.Pattern.Reading
import SaslClient.Text.Count

/-!
# Escapes

What a backslash and the characters behind it stand for. Every sign of ASCII can be escaped to stand
for itself. Braces behind an escape never close, because a closing brace ends the pattern of a
field, so a character by number in braces, a property by name in braces and a special edge of a word
are always faults.
-/

namespace SaslClient.Pattern

/-- What a character or an escape stands for. -/
inductive Atom where
  | literal (l : Literal)
  | dot (span : Span)
  | edge (span : Span) (isWord : Bool)
  | family (span : Span) (negated : Bool)
  | property (span : Span) (name : Char)
deriving DecidableEq, Repr

namespace Atom

/-- Where an atom stands. -/
def span : Atom → Span
  | .literal l => l.span
  | .dot span => span
  | .edge span _ => span
  | .family span _ => span
  | .property span _ => span

/-- The mark of an atom outside sets. -/
def mark : Atom → Mark
  | .literal l => .literal l
  | .dot span => .dot span
  | .edge span isWord => .edge span isWord
  | .family span negated => .family span negated
  | .property span name => .property span name

end Atom

/-- How many digits give a character by its number, by the letter in front of them. -/
def hexLength? (c : Char) : Option Nat :=
  if c = 'x' then some 2
  else if c = 'u' then some 4
  else if c = 'U' then some 8
  else none

/-- The character that escapes as a letter. -/
def controlOf? (c : Char) : Option Char :=
  if c = 'a' then some '\x07'
  else if c = 'f' then some '\x0c'
  else if c = 't' then some '\t'
  else if c = 'n' then some '\n'
  else if c = 'r' then some '\r'
  else if c = 'v' then some '\x0b'
  else none

/-- Whether a letter or sign names an edge, and if so whether of a word. -/
def edgeOf? (c : Char) : Option Bool :=
  if c = 'A' || c = 'z' then some false
  else if c = 'b' || c = 'B' || c = '<' || c = '>' then some true
  else none

/-- Whether a character may be escaped to stand for itself. -/
def isEscapable (c : Char) : Bool :=
  c.toNat < 0x80 && !c.isAlphanum && c != '<' && c != '>'

namespace Reader

/-- Reads a number of hexadecimal digits. -/
def hexDigits : Nat → Nat → Reader Nat
  | 0, value => return value
  | n + 1, value => do
    match ← next? with
    | none => failHere .escapeEnds
    | some c =>
      if Hex.isDigit c then
        advance
        hexDigits n (16 * value + Hex.value c)
      else failNext .hexDigit

/-- Reads hexadecimal digits behind a brace, up to what is none. -/
def hexUnclosed (brace : Place) : Nat → Reader Atom
  | 0 => failFrom brace .escapeEnds
  | n + 1 => do
    advance
    match ← next? with
    | none => failFrom brace .escapeEnds
    | some c => if Hex.isDigit c then hexUnclosed brace n else failNext .hexDigit

/-- Reads a character by its number, from the letter on that says how long the number is. -/
def hexLiteral (first : Place) (length : Nat) : Reader Atom := do
  advance
  let digitsFirst ← place
  if (← next?) = some '\x7b' then
    hexUnclosed digitsFirst (← get).rest.length
  else
    let value ← hexDigits length 0
    if value.isValidChar then
      return .literal ⟨⟨first, ← place⟩, Char.ofNat value, length == 2⟩
    else failFrom digitsFirst .hexValue

/-- Reads the name of a property, a single character. -/
def property (first : Place) : Reader Atom := do
  advance
  match ← next? with
  | none => failHere .escapeEnds
  | some '\x7b' => do
    let r ← get
    fail .escapeEnds (.point (r.place.nextAll r.rest))
  | some '\\' => failNext .propertyInvalid
  | some c =>
    advance
    return .property ⟨first, ← place⟩ c

/-- Whether a character may stand in the name of an edge. -/
def isEdgeNameChar (c : Char) : Bool :=
  c.isAlpha || c == '-'

/-- Passes over the name of an edge. -/
def edgeName : Nat → Reader Unit
  | 0 => return ()
  | n + 1 => do
    if (← next?).any isEdgeNameChar then
      advance
      edgeName n

/-- Refuses a brace with the name of an edge in it. Any other brace is left for a repetition. -/
def refuseEdgeName (first : Place) : Reader Unit := do
  let before ← get
  if before.rest.head? = some '\x7b' then
    advance
    match ← next? with
    | none => failFrom first .boundaryEnds
    | some c =>
      if isEdgeNameChar c then
        edgeName (← get).rest.length
        failFrom before.place .boundaryUnclosed
      else set before

/-- Reads what a backslash and the characters behind it stand for. -/
def escape : Reader Atom := do
  let first ← place
  bump
  match ← next? with
  | none => failFrom first .escapeEnds
  | some c =>
    if Text.isDigit c then
      bump
      failFrom first .backreference
    else if let some length := hexLength? c then hexLiteral first length
    else if c = 'p' || c = 'P' then property first
    else
      bump
      let span : Span := ⟨first, ← place⟩
      if isEscapable c then return .literal ⟨span, c, false⟩
      else if let some char := controlOf? c then return .literal ⟨span, char, false⟩
      else if ['d', 's', 'w'].contains c.toLower then return .family span c.isUpper
      else if let some isWord := edgeOf? c then
        if c = 'b' then refuseEdgeName first
        return .edge span isWord
      else fail .escapeUnknown span

end Reader

end SaslClient.Pattern
