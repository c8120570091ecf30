import SaslClient.Pattern.Place

/-!
# Faults of patterns

What can be wrong with a pattern, and where. The wording of each problem is in `Problem.message`.
-/

namespace SaslClient.Pattern

/-- How deep the parts of a pattern may be nested. -/
def depthLimit : Nat := 250

/-- What is wrong with a pattern. -/
inductive Problem where
  /-- A repetition of nothing. -/
  | nothingToRepeat
  /-- A count that is no number. -/
  | countMissing
  /-- A count above every limit. -/
  | countTooLarge
  | countUnclosed
  | groupUnclosed
  | groupUnopened
  /-- A group that looks ahead or behind. -/
  | lookAround
  | nameEmpty
  | nameInvalid
  | nameUnclosed
  | nameRepeated
  | flagUnknown
  | flagRepeated
  | flagsEnd
  | negationRepeated
  /-- A negation of no flag. -/
  | negationDangling
  | escapeEnds
  | escapeUnknown
  | backreference
  | hexDigit
  /-- Hexadecimal digits that stand for no character. -/
  | hexValue
  | boundaryUnclosed
  | boundaryEnds
  /-- A backslash for the name of a property. -/
  | propertyInvalid
  | propertyUnknown
  | setUnclosed
  /-- An escape that is no member of a set. -/
  | setEscape
  | rangeEnd
  | rangeReversed
  | tooDeep
  /-- A part beyond bytes where bytes are matched. -/
  | beyondBytes
  /-- A part that matches bytes of no text. -/
  | beyondText
deriving DecidableEq, Repr

/-- The wording of a problem. -/
def Problem.message : Problem → String
  | .nothingToRepeat => "repetition operator missing expression"
  | .countMissing => "repetition quantifier expects a valid decimal"
  | .countTooLarge => "decimal literal invalid"
  | .countUnclosed => "unclosed counted repetition"
  | .groupUnclosed => "unclosed group"
  | .groupUnopened => "unopened group"
  | .lookAround => "look-around, including look-ahead and look-behind, is not supported"
  | .nameEmpty => "empty capture group name"
  | .nameInvalid => "invalid capture group character"
  | .nameUnclosed => "unclosed capture group name"
  | .nameRepeated => "duplicate capture group name"
  | .flagUnknown => "unrecognized flag"
  | .flagRepeated => "duplicate flag"
  | .flagsEnd => "expected flag but got end of regex"
  | .negationRepeated => "flag negation operator repeated"
  | .negationDangling => "dangling flag negation operator"
  | .escapeEnds => "incomplete escape sequence, reached end of pattern prematurely"
  | .escapeUnknown => "unrecognized escape sequence"
  | .backreference => "backreferences are not supported"
  | .hexDigit => "invalid hexadecimal digit"
  | .hexValue => "hexadecimal literal is not a Unicode scalar value"
  | .boundaryUnclosed =>
    "special word boundary assertion is either unclosed or contains an invalid character"
  | .boundaryEnds =>
    "found either the beginning of a special word boundary or a bounded repetition on a \\b " ++
      "with an opening brace, but no closing brace"
  | .propertyInvalid => "invalid Unicode character class"
  | .propertyUnknown => "Unicode property not found"
  | .setUnclosed => "unclosed character class"
  | .setEscape => "invalid escape sequence found in character class"
  | .rangeEnd => "invalid range boundary, must be a literal"
  | .rangeReversed => "invalid character class range, the start must be <= the end"
  | .tooDeep =>
    "exceed the maximum number of nested parentheses/brackets (" ++ toString depthLimit ++ ")"
  | .beyondBytes => "Unicode not allowed here"
  | .beyondText => "pattern can match invalid UTF-8"

/-- A problem, where it is, and the earlier part that it refers to. -/
structure Fault where
  problem : Problem
  span : Span
  earlier : Option Span := none
deriving DecidableEq, Repr

end SaslClient.Pattern
