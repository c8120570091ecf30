import SaslClient.Pattern.Outline
import SaslClient.Pattern.Reading
import SaslClient.Text.WordTables

/-!
# Groups

What an opening parenthesis begins: a group that may have a name or flags of its own, or flags for
the rest of the group around it.
-/

namespace SaslClient.Pattern

/-- A flag, or the minus sign that negates the flags behind it, and where it stands. -/
structure Flag where
  letter : Option Char
  span : Span
deriving DecidableEq, Repr

namespace Flag

/-- The letters of the flags. -/
def letters : List Char := ['i', 'm', 's', 'U', 'u', 'R', 'x']

/-- Whether flags turn a flag on or off, if they name it. -/
def state? (letter : Char) : List Flag → Option Bool
  | [] => none
  | flag :: flags =>
    if flag.letter = some letter then some true
    else if flag.letter.isNone then
      if flags.any (·.letter = some letter) then some false else none
    else state? letter flags

/-- Whether flags say that text is matched, or that bytes are. -/
def text? (flags : List Flag) : Option Bool :=
  state? 'u' flags

/-- Whether flags say that blanks are passed over. -/
def blanks? (flags : List Flag) : Option Bool :=
  state? 'x' flags

end Flag

/-- What an opening parenthesis begins. -/
inductive Opening where
  /-- A group with flags of its own. -/
  | group (span : Span) (flags : List Flag)
  /-- Flags for the rest of the group around them. -/
  | flags (span : Span) (flags : List Flag)
deriving DecidableEq, Repr

/-- Whether a character may stand in the name of a group. -/
def isNameChar (isFirst : Bool) (c : Char) : Bool :=
  if isFirst then c = '_' || Text.alphabetic.contains c
  else c = '_' || c = '.' || c = '[' || c = ']' || Text.isAlphanumeric c

namespace Reader

/-- Passes over the characters of a name. -/
def nameChars : Nat → Bool → Reader Unit
  | 0, _ => return ()
  | n + 1, isFirst => do
    match ← next? with
    | none => return ()
    | some c =>
      if c = '>' then return ()
      else if isNameChar isFirst c then
        bump
        nameChars n false
      else failNext .nameInvalid

/-- Reads the name of a group up to the angle behind it. No two groups have one name. -/
def groupName : Reader Unit := do
  let start ← get
  nameChars start.rest.length true
  let last ← get
  if last.rest.isEmpty then failHere .nameUnclosed
  bump
  let span : Span := ⟨start.place, last.place⟩
  let name := start.rest.take (start.rest.length - last.rest.length)
  if name.isEmpty then fail .nameEmpty (.point start.place)
  match last.names.lookup name with
  | some earlier => throw { problem := .nameRepeated, span, earlier }
  | none => modify fun r => { r with names := (name, span) :: r.names }

/-- Reads one flag or minus sign. -/
def flag (flags : List Flag) (c : Char) : Reader Flag := do
  let span := (← get).nextSpan
  let letter := if c = '-' then none else some c
  if c != '-' && !Flag.letters.contains c then fail .flagUnknown span
  match flags.find? (·.letter = letter) with
  | some earlier =>
    throw
      { problem := if c = '-' then .negationRepeated else .flagRepeated
        span
        earlier := some earlier.span }
  | none => return ⟨letter, span⟩

/-- Reads flags up to the sign behind them, which is the result. -/
def flagsFrom : Nat → List Flag → Reader (List Flag × Char)
  | 0, _ => failHere .flagsEnd
  | n + 1, flags => do
    match ← next? with
    | none => failHere .flagsEnd
    | some c =>
      if c = ':' || c = ')' then
        match flags.getLast? with
        | some ⟨none, span⟩ => fail .negationDangling span
        | _ => return (flags, c)
      else
        let flag ← flag flags c
        bump
        flagsFrom n (flags ++ [flag])

/-- Whether a group comes next that looks ahead or behind; its signs are passed over. -/
def lookAround : Reader Bool := do
  if ← accept ['?', '!'] then return true
  accept ['?', '<', '!']

/-- Whether the name of a group comes next; the signs in front of it are passed over. -/
def nameFollows : Reader Bool := do
  if ← accept ['?', 'P', '<'] then return true
  accept ['?', '<']

/-- Reads an opening parenthesis and the signs behind it. -/
def opening : Reader Opening := do
  let span := (← get).nextSpan
  advance
  if ← lookAround then failFrom span.first .lookAround
  let inner ← place
  if ← nameFollows then
    groupName
    return .group span []
  else if ← accept ['?'] then
    if (← next?).isNone then fail .groupUnclosed span
    let (flags, sign) ← flagsFrom ((← get).rest.length + 1) []
    bump
    if sign = ':' then return .group span flags
    else if flags.isEmpty then fail .nothingToRepeat (.point inner)
    else return .flags ⟨span.first, ← place⟩ flags
  else return .group span []

end Reader

end SaslClient.Pattern
