/-!
# Places in a pattern

A place lies between two characters and is counted in lines and columns from one. A span is the
stretch between two places.
-/

namespace SaslClient.Pattern

/-- A place between two characters. -/
structure Place where
  line : Nat
  column : Nat
deriving DecidableEq, Repr

namespace Place

/-- The place before the first character. -/
def start : Place := ⟨1, 1⟩

/-- The place behind a character that stands at `p`. -/
def next (p : Place) (c : Char) : Place :=
  if c = '\n' then ⟨p.line + 1, 1⟩ else ⟨p.line, p.column + 1⟩

/-- The place behind several characters. -/
def nextAll (p : Place) (cs : List Char) : Place :=
  cs.foldl next p

end Place

/-- The stretch from one place to another. -/
structure Span where
  first : Place
  last : Place
deriving DecidableEq, Repr

namespace Span

/-- The empty stretch at a place. -/
def point (p : Place) : Span := ⟨p, p⟩

/-- Whether a stretch stays on one line. -/
def isOneLine (s : Span) : Bool :=
  s.first.line == s.last.line

end Span

end SaslClient.Pattern
