import SaslClient.Pattern.Fault
import SaslClient.Text.Blank

/-!
# Reading patterns

The state of a reader of patterns, and the moves that all readers are made of. With the flag `x`
blanks, and comments from a number sign to the end of a line, are passed over.
-/

namespace SaslClient.Pattern

/-- How far the reading of a pattern is. -/
structure Reading where
  rest : List Char
  place : Place := .start
  /-- Whether blanks and comments are passed over. -/
  skipsBlanks : Bool := false
  /-- The names of groups so far. -/
  names : List (List Char × Span) := []
deriving DecidableEq, Repr

/-- A reader of a part of a pattern. -/
abbrev Reader := StateT Reading (Except Fault)

namespace Reading

/-- Passes over one character. -/
def bump (r : Reading) : Reading :=
  match r.rest with
  | [] => r
  | c :: rest => { r with rest := rest, place := r.place.next c }

/-- How many characters at the front are blanks or stand in comments. -/
def blankCount (inComment : Bool) : List Char → Nat
  | [] => 0
  | c :: rest =>
    if inComment then blankCount (c != '\n') rest + 1
    else if Text.isBlank c then blankCount false rest + 1
    else if c = '#' then blankCount true rest + 1
    else 0

/-- Passes over blanks and comments, if the flag says so. -/
def skip (r : Reading) : Reading :=
  if r.skipsBlanks then
    let n := blankCount false r.rest
    { r with rest := r.rest.drop n, place := r.place.nextAll (r.rest.take n) }
  else r

/-- Passes over one character and what may be passed over behind it. -/
def advance (r : Reading) : Reading :=
  r.bump.skip

/-- The stretch of the next character. -/
def nextSpan (r : Reading) : Span :=
  ⟨r.place, r.bump.place⟩

/-- The character that decides whether a minus sign that comes next is a range: the one behind it,
or the first that is no blank when blanks are passed over. Of a comment only the sign that begins it
is passed over, and blanks up to the end of the pattern are not. -/
def second? (r : Reading) : Option Char :=
  let behind := r.rest.drop 1
  let text :=
    match behind.dropWhile Text.isBlank with
    | '#' :: comment => comment.dropWhile Text.isBlank
    | text => text
  if r.skipsBlanks && !text.isEmpty then text.head? else behind.head?

end Reading

namespace Reader

/-- The next character. -/
def next? : Reader (Option Char) :=
  return (← get).rest.head?

/-- The place before the next character. -/
def place : Reader Place :=
  return (← get).place

/-- Passes over one character. -/
def bump : Reader Unit :=
  modify Reading.bump

/-- Passes over blanks and comments, if the flag says so. -/
def skip : Reader Unit :=
  modify Reading.skip

/-- Passes over one character and what may be passed over behind it. -/
def advance : Reader Unit :=
  modify Reading.advance

/-- Stops with a problem. -/
def fail {α : Type} (problem : Problem) (span : Span) : Reader α :=
  throw { problem, span }

/-- Stops with a problem at the place before the next character. -/
def failHere {α : Type} (problem : Problem) : Reader α := do
  fail problem (.point (← place))

/-- Stops with a problem of the next character. -/
def failNext {α : Type} (problem : Problem) : Reader α := do
  fail problem (← get).nextSpan

/-- Stops with a problem of all that was read from a place on. -/
def failFrom {α : Type} (first : Place) (problem : Problem) : Reader α := do
  fail problem ⟨first, ← place⟩

/-- Passes over the given characters, if they come next. -/
def accept (cs : List Char) : Reader Bool := do
  if cs.isPrefixOf (← get).rest then
    modify fun r => cs.foldl (fun r _ => r.bump) r
    return true
  else
    return false

end Reader

end SaslClient.Pattern
