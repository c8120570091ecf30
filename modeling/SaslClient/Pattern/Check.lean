import SaslClient.Pattern.Read

/-!
# Checking patterns

A pattern that is well written may still be refused: its parts may be nested too deep, it may match
bytes that are no text, or it may name properties that do not exist. Edges of words are refused too
where text is matched, since matching has to get by with a table of single bytes.
-/

namespace SaslClient.Pattern

/-- Why a pattern is refused. -/
inductive Refusal where
  | fault (f : Fault)
  /-- The pattern asks for edges of words in text. -/
  | wordEdge
deriving DecidableEq, Repr

/-- The depth behind a mark. -/
def depthStep (depth : Nat) (mark : Mark) : Except Fault Nat :=
  match mark with
  | .enter span =>
    if depth < depthLimit then .ok (depth + 1) else .error { problem := .tooDeep, span }
  | .leave => .ok (depth - 1)
  | _ => .ok depth

/-- Refuses parts that are nested too deep. -/
def checkDepth (marks : List Mark) : Except Fault Unit := do
  let _ ← marks.foldlM depthStep 0
  return ()

/-- What is matched at some place of a pattern. -/
structure Scope where
  /-- Text is matched rather than bytes. -/
  text : Bool := true
  /-- The same for the groups around the place, the innermost first. -/
  outer : List Bool := []
  /-- Whether edges of words in text have been asked for. -/
  hasWordEdge : Bool := false
deriving DecidableEq, Repr

namespace Scope

/-- The letters of the properties that have one, in lower case. -/
def propertyLetters : List Char := ['c', 'l', 'm', 'n', 'p', 's', 'z']

/-- The problem of a mark in a scope. -/
def problem? (s : Scope) : Mark → Option (Problem × Span)
  | .dot span => if s.text then none else some (.beyondText, span)
  | .literal l =>
    if !s.text && l.isByte && 0x80 ≤ l.char.toNat then some (.beyondText, l.span) else none
  | .member l =>
    if s.text || l.char.toNat < 0x80 then none
    else some (if l.isByte then .beyondText else .beyondBytes, l.span)
  | .family span negated => if !s.text && negated then some (.beyondText, span) else none
  | .named span negated => if !s.text && negated then some (.beyondText, span) else none
  | .setEnd span negated => if !s.text && negated then some (.beyondText, span) else none
  | .property span name =>
    if !s.text then some (.beyondBytes, span)
    else if propertyLetters.contains name.toLower then none
    else some (.propertyUnknown, span)
  | _ => none

/-- The scope behind a mark. -/
def next (s : Scope) : Mark → Scope
  | .group text => { s with text := text.getD s.text, outer := s.text :: s.outer }
  | .groupEnd => { s with text := s.outer.headD s.text, outer := s.outer.tail }
  | .flags text => { s with text := text.getD s.text }
  | .edge _ isWord => { s with hasWordEdge := s.hasWordEdge || (isWord && s.text) }
  | _ => s

/-- The scope behind a mark, if the mark can stand there. -/
def step (s : Scope) (mark : Mark) : Except Fault Scope :=
  match s.problem? mark with
  | some (problem, span) => .error { problem, span }
  | none => .ok (s.next mark)

end Scope

/-- Checks what an outline asks for, and says whether it asks for edges of words in text. -/
def checkScope (marks : List Mark) : Except Fault Bool :=
  (marks.foldlM Scope.step {}).map (·.hasWordEdge)

/-- Checks a pattern. -/
def check (cs : List Char) : Except Refusal Unit := do
  let marks ← (outline cs).mapError .fault
  (checkDepth marks).mapError .fault
  if ← (checkScope marks).mapError .fault then throw .wordEdge

end SaslClient.Pattern
