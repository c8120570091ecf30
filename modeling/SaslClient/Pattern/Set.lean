import SaslClient.Pattern.Escape

/-!
# Sets of characters

A set stands in square brackets. Its members are characters, ranges, named sets and sets, in unions;
`&&`, `--` and `~~` combine the union on their left with the one on their right, from left to right.
-/

namespace SaslClient.Pattern

/-- The names of sets between colons. -/
def setNames : List (List Char) :=
  ["alnum", "alpha", "ascii", "blank", "cntrl", "digit", "graph", "lower", "print", "punct",
    "space", "upper", "word", "xdigit"].map String.toList

/-- The members of a set up to some place. -/
structure Union where
  span : Span
  parts : List Part := []
deriving DecidableEq, Repr

namespace Union

/-- The union with one more member. -/
def push (u : Union) (part : Part) : Union where
  span := ⟨if u.parts.isEmpty then part.span.first else u.span.first, part.span.last⟩
  parts := u.parts ++ [part]

/-- The union as one part. -/
def part (u : Union) : Part :=
  .join u.span u.parts

end Union

/-- What is left open while a set is read. -/
inductive SetFrame where
  /-- A set, and the union it will be a member of. -/
  | opened (outer : Union) (span : Span) (negated : Bool)
  /-- An operation that has its left side. -/
  | operation (left : Part)
deriving DecidableEq, Repr

/-- How far the reading of a set is: what is open, the innermost first, and the union that grows. -/
structure SetReading where
  frames : List SetFrame
  union : Union
deriving DecidableEq, Repr

namespace SetReading

/-- The outline of a single character as a member. -/
def memberPart (l : Literal) : Part :=
  { span := l.span, marks := [.member l] }

/-- The union so far as the right side of the operation that waits for one. -/
def close (s : SetReading) : Part × List SetFrame :=
  let right := s.union.part
  match s.frames with
  | .operation left :: frames =>
    (.compound ⟨left.span.first, right.span.last⟩ (left.marks ++ right.marks), frames)
  | frames => (right, frames)

/-- The stretch that opened the innermost set. -/
def openSpan? (s : SetReading) : Option Span :=
  s.frames.findSome? fun
    | .opened _ span _ => some span
    | .operation _ => none

end SetReading

namespace Reader

/-- Stops because a set is not closed. -/
def failUnclosed {α : Type} (s : SetReading) : Reader α := do
  match s.openSpan? with
  | some span => fail .setUnclosed span
  | none => failHere .setUnclosed

/-- Reads a named set, or nothing when there is none. -/
def namedSet? : Reader (Option Part) := do
  let r ← get
  match r.rest with
  | '[' :: ':' :: rest =>
    let negated := rest.head? == some '^'
    let rest := if negated then rest.drop 1 else rest
    let name := rest.takeWhile (· != ':')
    let behind := rest.drop name.length
    if setNames.contains name && [':', ']'].isPrefixOf behind then
      let length := r.rest.length - behind.length + 2
      let span : Span := ⟨r.place, r.place.nextAll (r.rest.take length)⟩
      set { r with rest := r.rest.drop length, place := span.last }
      return some { span, marks := [.named span negated] }
    else return none
  | _ => return none

/-- Reads minus signs as members, for the set that opened at a place. -/
def leadingMinus (first : Place) : Nat → Union → Reader Union
  | 0, union => return union
  | n + 1, union => do
    if (← next?) = some '-' then
      let minus : Literal := ⟨(← get).nextSpan, '-', false⟩
      advance
      if (← next?).isNone then fail .setUnclosed (.point first)
      leadingMinus first n (union.push (SetReading.memberPart minus))
    else return union

/-- Reads the beginning of a set: a bracket, perhaps a caret, and the members that could not stand
elsewhere. -/
def openSet (s : SetReading) : Reader SetReading := do
  let first ← place
  advance
  if (← next?).isNone then failFrom first .setUnclosed
  let negated := (← next?) == some '^'
  if negated then
    advance
    if (← next?).isNone then failFrom first .setUnclosed
  let mut union ← leadingMinus first (← get).rest.length ⟨.point (← place), []⟩
  if union.parts.isEmpty && (← next?) == some ']' then
    let bracket : Literal := ⟨(← get).nextSpan, ']', false⟩
    advance
    if (← next?).isNone then failFrom first .setUnclosed
    union := union.push (SetReading.memberPart bracket)
  return ⟨.opened s.union ⟨first, ← place⟩ negated :: s.frames, union⟩

/-- Reads a character or an escape as it stands in a set. -/
def setAtom (c : Char) : Reader Atom := do
  if c = '\\' then escape
  else
    let span := (← get).nextSpan
    bump
    return .literal ⟨span, c, false⟩

/-- The atom as a member. -/
def member : Atom → Reader Part
  | .literal l => return SetReading.memberPart l
  | .family span negated => return { span, marks := [.family span negated] }
  | .property span name => return { span, marks := [.property span name] }
  | atom => fail .setEscape atom.span

/-- The atom as an end of a range. -/
def rangeEnd : Atom → Reader Literal
  | .literal l => return l
  | atom => fail .rangeEnd atom.span

/-- Reads a member that begins with a character, or a range of members. -/
def memberOrRange (s : SetReading) (c : Char) : Reader Part := do
  let low ← setAtom c
  skip
  let r ← get
  if r.rest.isEmpty then failUnclosed s
  if r.rest.head? != some '-' || r.second? == some ']' || r.second? == some '-' then member low
  else
    advance
    match ← next? with
    | none => failUnclosed s
    | some c =>
      let high ← setAtom c
      let span : Span := ⟨low.span.first, high.span.last⟩
      let low ← rangeEnd low
      let high ← rangeEnd high
      if low.char ≤ high.char then return { span, marks := [.member low, .member high] }
      else fail .rangeReversed span

/-- Reads a sign between two unions. -/
def operation (s : SetReading) : Reader SetReading := do
  bump
  bump
  let (left, frames) := s.close
  return ⟨.operation left :: frames, ⟨.point (← place), []⟩⟩

/-- Reads the end of a set. The outermost set is the result. -/
def closeSet (s : SetReading) : Reader (Part ⊕ SetReading) := do
  bump
  let (body, frames) := s.close
  match frames with
  | .opened outer span negated :: frames =>
    let span : Span := ⟨span.first, ← place⟩
    let part : Part := .compound span (body.marks ++ [.setEnd span negated])
    if frames.isEmpty then return .inl part else return .inr ⟨frames, outer.push part⟩
  | _ => failUnclosed s

/-- Reads one more piece of a set. -/
def setStep (s : SetReading) : Reader (Part ⊕ SetReading) := do
  skip
  let rest := (← get).rest
  match rest with
  | [] => failUnclosed s
  | '[' :: _ =>
    match ← namedSet? with
    | some part => return .inr { s with union := s.union.push part }
    | none => .inr <$> openSet s
  | ']' :: _ => closeSet s
  | c :: _ =>
    if ['&', '-', '~'].contains c && rest[1]? == some c then .inr <$> operation s
    else
      let part ← memberOrRange s c
      return .inr { s with union := s.union.push part }

/-- Reads pieces until the outermost set ends. Each takes at least one character. -/
def setSteps : Nat → SetReading → Reader Part
  | 0, s => failUnclosed s
  | n + 1, s => do
    match ← setStep s with
    | .inl part => return part
    | .inr s => setSteps n s

/-- Reads a set of characters. -/
def charSet : Reader Part := do
  let length := (← get).rest.length
  let s ← openSet ⟨[], ⟨.point (← place), []⟩⟩
  setSteps length s

end Reader

end SaslClient.Pattern
