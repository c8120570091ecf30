import SaslClient.Pattern.Notes
import SaslClient.Text.ByteCut
import SaslClient.Text.Number

/-!
# Log filters

A log filter is a list of directives between commas. A directive is a target, a span in square
brackets with perhaps a field in braces, or both; a level may follow behind an equals sign. A target
that names a level stands for that level, so every target is valid and only a level behind an equals
sign can be unknown. A field may have a value behind an equals sign: a number or a pattern.

Blanks around a directive are not read, but the parts of a directive are cut out of the text with
its blanks, at offsets in bytes from its first character that is no blank. Behind blanks a part thus
begins and ends early, and the cut may fall inside a character.

Here filters are checked, not applied.
-/

namespace SaslClient.LogFilter

/-- What is wrong with a filter. -/
inductive Fault where
  /-- A directive of another form. -/
  | directive
  /-- A level that is none. -/
  | level
  /-- A pattern for the value of a field that is refused. -/
  | field (pattern : List Char) (refusal : Pattern.Refusal)
  /-- A part that would begin or end inside a character, which leaves nothing to report. -/
  | brokenCharacter
deriving DecidableEq, Repr

/-- What a fault of a filter is reported as, from the outermost cause to the innermost. An unknown
level is its own cause, and so is a refused pattern. -/
def Fault.causes : Fault → List String
  | .directive => ["invalid filter directive"]
  | .level =>
    let text :=
      "error parsing level filter: expected one of \"off\", \"error\", \"warn\", \"info\", " ++
        "\"debug\", \"trace\", or a number 0-5"
    [text, text]
  | .field pattern refusal =>
    let causes := refusal.causes pattern
    (causes.head?.map ("invalid field filter: " ++ ·)).toList ++ causes
  | .brokenCharacter => []

/-- How far the reading of a directive is, with the offset where the part that is read began. -/
inductive Reading where
  | start
  | target
  | span (first : Nat)
  /-- Inside the braces of a span. -/
  | field (first : Nat)
  /-- Behind the braces of a span. -/
  | afterField
  /-- Behind a span. -/
  | afterSpan
  /-- Behind an equals sign. -/
  | level (first : Nat)
deriving DecidableEq, Repr

/-- Whether a target may start with a character. -/
def startsTarget (c : Char) : Bool :=
  c = '-' || c = ':' || c = '_' || Text.isAlphanumeric c

/-- The part of a directive from one offset to another. -/
def cut (directive : List Char) (first last : Nat) : Except Fault (List Char) :=
  match Text.cutBytes? first last directive with
  | some part => .ok part
  | none => .error .brokenCharacter

/-- The value of a field, behind its first equals sign and up to its second. -/
def fieldValue? (field : List Char) : Option (List Char) :=
  (field.splitOn '=')[1]?

/-- Checks a field. -/
def checkField (field : List Char) : Except Fault Unit :=
  if field.isEmpty then .error .directive
  else
    match fieldValue? field with
    | none => .ok ()
    | some value =>
      if Text.isNumber value then .ok ()
      else (Pattern.check value).mapError (.field value)

/-- Reads one more character of a directive, at an offset. -/
def step (directive : List Char) (offset : Nat) (c : Char) : Reading → Except Fault Reading
  | .start =>
    if c = '[' then .ok (.span (offset + 1))
    else if startsTarget c then .ok .target
    else .error .directive
  | .target =>
    if c = '=' || c = '[' then do
      let _ ← cut directive 0 offset
      return if c = '=' then .level (offset + 1) else .span (offset + 1)
    else .ok .target
  | .span first =>
    if c = ']' || c = '\x7b' then do
      let _ ← cut directive first offset
      return if c = ']' then .afterSpan else .field (offset + 1)
    else .ok (.span first)
  | .field first =>
    if c = '\x7d' then do
      checkField (← cut directive first offset)
      return .afterField
    else .ok (.field first)
  | .afterField => if c = ']' then .ok .afterSpan else .error .directive
  | .afterSpan => if c = '=' then .ok (.level (offset + 1)) else .error .directive
  | .level first => .ok (.level first)

/-- The names of levels. -/
def levelNames : List (List Char) :=
  [['o', 'f', 'f'], ['e', 'r', 'r', 'o', 'r'], ['w', 'a', 'r', 'n'], ['i', 'n', 'f', 'o'],
    ['d', 'e', 'b', 'u', 'g'], ['t', 'r', 'a', 'c', 'e']]

/-- Whether a text is a level: a name in any letter case, a number up to five, or nothing. -/
def isLevel (text : List Char) : Bool :=
  text.isEmpty || (Text.readCount? 6 text).isSome || levelNames.contains (text.map Char.toLower)

/-- Reads characters of a directive from an offset on. -/
def steps (directive : List Char) : Nat → List Char → Reading → Except Fault Reading
  | _, [], reading => .ok reading
  | offset, c :: cs, reading => do
    steps directive (offset + c.utf8Size) cs (← step directive offset c reading)

/-- Checks a directive. A level runs up to the end of the text, with the blanks there. -/
def checkDirective (directive : List Char) : Except Fault Unit := do
  match ← steps directive 0 (Text.trimChars directive) .start with
  | .target => .ok ()
  | .afterSpan => .ok ()
  | .level first =>
    match Text.dropBytes? first directive with
    | some text => if isLevel text then .ok () else .error .level
    | none => .error .brokenCharacter
  | _ => .error .directive

/-- The directives of a filter. Empty ones are passed over. -/
def directives (filter : String) : List (List Char) :=
  (filter.toList.splitOn ',').filter (!·.isEmpty)

/-- Checks a filter, directive by directive. -/
def check (filter : String) : Except Fault Unit :=
  (directives filter).forM checkDirective

/-- Whether a directive is cut inside a character. -/
def isBroken (directive : List Char) : Bool :=
  match checkDirective directive with
  | .error .brokenCharacter => true
  | _ => false

/-- Checks a filter whose faulty directives are passed over. Only a directive that is cut inside a
character stands against it. -/
def checkLenient (filter : String) : Except Fault Unit :=
  if (directives filter).any isBroken then .error .brokenCharacter else .ok ()

end SaslClient.LogFilter
