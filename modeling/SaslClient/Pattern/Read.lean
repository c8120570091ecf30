import SaslClient.Pattern.Group
import SaslClient.Pattern.Set

/-!
# Reading a whole pattern

A pattern is read piece by piece. Groups that are still open are kept in a stack; each level has the
branches that a bar has ended and the sequence that grows.
-/

namespace SaslClient.Pattern

/-- A level of a pattern: the whole, or the inside of a group. -/
structure Level where
  /-- Where the level begins. -/
  first : Place
  /-- The branches that have ended. -/
  branches : List Part := []
  /-- Where the branch that grows begins. -/
  branchFirst : Place := first
  /-- The parts of the branch that grows. -/
  parts : List Part := []
deriving DecidableEq, Repr

namespace Level

/-- The branch that grows, when it ends at a place. -/
def branch (l : Level) (last : Place) : Part :=
  .join ⟨l.branchFirst, last⟩ l.parts

/-- The level as one part, when it ends at a place. -/
def part (l : Level) (last : Place) : Part :=
  .join ⟨l.first, last⟩ (l.branches ++ [l.branch last])

/-- The level with one more part. -/
def push (l : Level) (part : Part) : Level :=
  { l with parts := l.parts ++ [part] }

end Level

/-- A group that is open, and the level around it. -/
structure OpenGroup where
  outer : Level
  span : Span
  flags : List Flag
  /-- Whether blanks are passed over around the group. -/
  skipsBlanks : Bool
deriving DecidableEq, Repr

/-- How far a pattern is read: the open groups, the innermost first, and the level that grows. -/
structure Progress where
  groups : List OpenGroup := []
  level : Level := ⟨.start, [], .start, []⟩
deriving DecidableEq, Repr

namespace Reader

/-- The part that a repetition applies to, and the level without it. -/
def lastPart (l : Level) : Reader (Part × Level) := do
  match l.parts.getLast? with
  | some part =>
    if part.isRepeatable then return (part, { l with parts := l.parts.dropLast })
    else failHere .nothingToRepeat
  | none => failHere .nothingToRepeat

/-- Reads a sign of repetition. A question mark behind it is part of it. -/
def repetition (l : Level) : Reader Level := do
  let (part, l) ← lastPart l
  bump
  if (← next?) = some '?' then bump
  return l.push (part.repeated (← place))

/-- Passes over blanks. -/
def blanks (move : Reader Unit) : Nat → Reader Unit
  | 0 => return ()
  | n + 1 => do
    if (← next?).any Text.isBlank then
      move
      blanks move n

/-- Reads decimal digits. -/
def digits : Nat → Reader (List Char)
  | 0 => return []
  | n + 1 => do
    match ← next? with
    | none => return []
    | some c =>
      if Text.isDigit c then
        advance
        return c :: (← digits n)
      else return []

/-- Counts are below this number. -/
def countLimit : Nat := 4294967296

/-- Refuses a count. Counts never end, because a closing brace ends the pattern of a field. -/
def refuseCount (l : Level) : Reader Level := do
  let _ ← lastPart l
  let first ← place
  advance
  let length := (← get).rest.length
  if length = 0 then failFrom first .countUnclosed
  blanks bump length
  let digitsFirst ← place
  let count ← digits length
  let span : Span := ⟨digitsFirst, ← place⟩
  blanks advance length
  if (← next?).isNone then failFrom first .countUnclosed
  else if count.isEmpty then fail .countMissing span
  else if countLimit ≤ Text.digitsValue count then fail .countTooLarge span
  else failFrom first .countUnclosed

/-- Begins what an opening parenthesis says. -/
def openGroup (p : Progress) : Reader Progress := do
  match ← opening with
  | .flags span flags =>
    modify fun r => { r with skipsBlanks := (Flag.blanks? flags).getD r.skipsBlanks }
    let part : Part := { span, marks := [.flags (Flag.text? flags)], isRepeatable := false }
    return { p with level := p.level.push part }
  | .group span flags =>
    let r ← get
    set { r with skipsBlanks := (Flag.blanks? flags).getD r.skipsBlanks }
    return ⟨⟨p.level, span, flags, r.skipsBlanks⟩ :: p.groups, ⟨r.place, [], r.place, []⟩⟩

/-- Ends the innermost group. -/
def closeGroup (p : Progress) : Reader Progress := do
  match p.groups with
  | [] => failNext .groupUnopened
  | group :: groups =>
    let inner := p.level.part (← place)
    bump
    modify fun r => { r with skipsBlanks := group.skipsBlanks }
    let span : Span := ⟨group.span.first, ← place⟩
    let marks := .group (Flag.text? group.flags) :: (inner.marks ++ [.groupEnd])
    return ⟨groups, group.outer.push (.compound span marks)⟩

/-- Ends a branch. -/
def closeBranch (l : Level) : Reader Level := do
  let branch := l.branch (← place)
  bump
  return { l with branches := l.branches ++ [branch], branchFirst := ← place, parts := [] }

/-- Reads a character, an escape or a sign that stands for characters. -/
def atom (c : Char) : Reader Part := do
  let span := (← get).nextSpan
  let atom ←
    if c = '\\' then escape
    else do
      bump
      if c = '.' then pure (.dot span)
      else if c = '^' || c = '$' then pure (.edge span false)
      else pure (.literal ⟨span, c, false⟩)
  return { span := atom.span, marks := [atom.mark] }

/-- Reads one more piece, which begins with a character. -/
def piece (p : Progress) (c : Char) : Reader Progress := do
  if c = '(' then openGroup p
  else if c = ')' then closeGroup p
  else
    let level ←
      if c = '|' then closeBranch p.level
      else if c = '[' then p.level.push <$> charSet
      else if c = '?' || c = '*' || c = '+' then repetition p.level
      else if c = '\x7b' then refuseCount p.level
      else p.level.push <$> atom c
    return { p with level }

/-- Reads pieces up to the end. Each takes at least one character. -/
def pieces : Nat → Progress → Reader Progress
  | 0, p => return p
  | n + 1, p => do
    skip
    match ← next? with
    | none => return p
    | some c => pieces n (← piece p c)

/-- Reads a pattern up to its end. No group may be left open. -/
def pattern : Reader Part := do
  let p ← pieces (← get).rest.length {}
  match p.groups with
  | [] => return p.level.part (← place)
  | group :: _ => fail .groupUnclosed group.span

end Reader

/-- The outline of a pattern, or what is wrong with how it is written. -/
def outline (cs : List Char) : Except Fault (List Mark) :=
  (Reader.pattern.run' { rest := cs }).map (·.marks)

end SaslClient.Pattern
