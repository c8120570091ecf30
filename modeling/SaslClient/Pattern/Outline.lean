import SaslClient.Pattern.Fault

/-!
# Outlines of patterns

A pattern that has been read is kept as the list of its marks in the order of the text. A compound
part stands between `enter` and `leave`, so the nesting of a pattern and the flags in force at each
of its places are found by going through the list once.
-/

namespace SaslClient.Pattern

/-- A single character, and whether it was written as one byte. -/
structure Literal where
  span : Span
  char : Char
  isByte : Bool
deriving DecidableEq, Repr

/-- What the outline of a pattern is made of. -/
inductive Mark where
  /-- A compound part begins. -/
  | enter (span : Span)
  /-- The compound part that began last ends. -/
  | leave
  /-- A group begins; its own flags may say whether text is matched rather than bytes. -/
  | group (text : Option Bool)
  /-- The group that began last ends, and its flags with it. -/
  | groupEnd
  /-- Flags for the rest of the group. -/
  | flags (text : Option Bool)
  | literal (l : Literal)
  /-- Any character. -/
  | dot (span : Span)
  /-- An edge of a line, a text or a word. -/
  | edge (span : Span) (isWord : Bool)
  /-- A short name for digits, blanks or word characters, or for all others. -/
  | family (span : Span) (negated : Bool)
  /-- The characters with a property. -/
  | property (span : Span) (name : Char)
  /-- A single member of a set, or an end of a range of members. -/
  | member (l : Literal)
  /-- A named set inside a set. -/
  | named (span : Span) (negated : Bool)
  /-- A set ends. -/
  | setEnd (span : Span) (negated : Bool)
deriving DecidableEq, Repr

/-- A part of a pattern. -/
structure Part where
  span : Span
  marks : List Mark
  /-- Whether the part can be repeated; flags cannot. -/
  isRepeatable : Bool := true
deriving DecidableEq, Repr

namespace Part

/-- The marks of a compound part. -/
def enclose (span : Span) (marks : List Mark) : List Mark :=
  .enter span :: (marks ++ [.leave])

/-- A part that is compound. -/
def compound (span : Span) (marks : List Mark) : Part :=
  { span, marks := enclose span marks }

/-- Several parts as one over a span; a single part stays as it is. -/
def join (span : Span) : List Part → Part
  | [] => { span, marks := [] }
  | [part] => part
  | parts => compound span (parts.flatMap marks)

/-- A part followed by a repetition that ends at a place. -/
def repeated (part : Part) (last : Place) : Part :=
  compound ⟨part.span.first, last⟩ part.marks

end Part

end SaslClient.Pattern
