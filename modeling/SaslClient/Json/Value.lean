import SaslClient.Json.Token

/-!
# JSON values

Skipping a value of any kind, and the fault for a value of the wrong kind.

A skipped value is held together by the list of its open brackets, the innermost first, so that
values may nest to any depth.
-/

namespace SaslClient.Json

/-- An open bracket. -/
inductive Bracket where
  | list
  | object
deriving DecidableEq, Repr

/-- The byte that closes a bracket. -/
def Bracket.closing : Bracket → UInt8
  | .list => byte ']'
  | .object => 0x7D

/-- What is to come while a value is skipped. -/
inductive Expecting where
  /-- A value. -/
  | value
  /-- A member of the innermost bracket, or its end. A comma comes first unless it was just
  opened. -/
  | member (opened : Bool)

/-- The rest behind an object key and its colon. -/
def skipKey (bs : Bytes) : Except Fault Bytes :=
  match skipBlanks bs with
  | [] => .error ⟨.ended, []⟩
  | b :: rest =>
    if b ≠ byte '"' then .error ⟨.malformed, rest⟩
    else do
      match skipBlanks (← skipString rest) with
      | [] => .error ⟨.ended, []⟩
      | b :: rest => if b = byte ':' then .ok rest else .error ⟨.malformed, rest⟩

/-- The rest behind a value that is neither a list nor an object. -/
def skipScalar (b : UInt8) (rest : Bytes) : Except Fault Bytes :=
  if b = byte 'n' then expectWord ['u', 'l', 'l'] rest
  else if b = byte 't' then expectWord ['r', 'u', 'e'] rest
  else if b = byte 'f' then expectWord ['a', 'l', 's', 'e'] rest
  else if b = byte '-' then skipNumber rest
  else if isDigit b then skipNumber (b :: rest)
  else if b = byte '"' then skipString rest
  else .error ⟨.malformed, rest⟩

/-- The rest behind everything that is still open, in at most so many rounds. -/
def skipOpen : (rounds : Nat) → Expecting → List Bracket → Bytes → Except Fault Bytes
  | 0, _, _, bs => .error ⟨.malformed, bs⟩
  | rounds + 1, .value, opened, bs =>
    match skipBlanks bs with
    | [] => .error ⟨.ended, []⟩
    | b :: rest =>
      if b = byte '[' then skipOpen rounds (.member true) (.list :: opened) rest
      else if b = 0x7B then skipOpen rounds (.member true) (.object :: opened) rest
      else do
        let rest ← skipScalar b rest
        if opened.isEmpty then .ok rest else skipOpen rounds (.member false) opened rest
  | _ + 1, .member _, [], bs => .ok bs
  | rounds + 1, .member isFirst, bracket :: outer, bs =>
    let next (bs : Bytes) : Except Fault Bytes := do
      let bs ← if bracket = .object then skipKey bs else .ok bs
      skipOpen rounds .value (bracket :: outer) bs
    match skipBlanks bs with
    | [] => .error ⟨.ended, []⟩
    | b :: rest =>
      if b = byte ',' ∧ !isFirst then next rest
      else if b = bracket.closing then
        if outer.isEmpty then .ok rest else skipOpen rounds (.member false) outer rest
      else if isFirst then next (b :: rest)
      else .error ⟨.malformed, rest⟩

/-- The rest behind a value. Every second round consumes a byte. -/
def skipValue (bs : Bytes) : Except Fault Bytes :=
  skipOpen (2 * bs.length + 2) .value [] bs

/-- The fault of a value that is well-formed but of the wrong kind, or not well-formed at all. A
list or an object is refused at its bracket, a scalar behind its last byte. -/
def wrongKind (bs : Bytes) : Fault :=
  let behind {α : Type} (r : Except Fault (α × Bytes)) : Fault :=
    match r with
    | .ok (_, rest) => ⟨.mismatch, rest⟩
    | .error fault => fault
  let word (letters : List Char) (rest : Bytes) : Fault :=
    behind ((fun rest => ((), rest)) <$> expectWord letters rest)
  match bs with
  | [] => ⟨.ended, []⟩
  | b :: rest =>
    if b = byte 'n' then word ['u', 'l', 'l'] rest
    else if b = byte 't' then word ['r', 'u', 'e'] rest
    else if b = byte 'f' then word ['a', 'l', 's', 'e'] rest
    else if b = byte '-' then behind (readNumber true rest)
    else if isDigit b then behind (readNumber false bs)
    else if b = byte '"' then behind (readString rest)
    else if b = byte '[' ∨ b = 0x7B then ⟨.mismatch, bs⟩
    else ⟨.malformed, rest⟩

/-- A string where a string is asked for. -/
def readText (bs : Bytes) : Except Fault (String × Bytes) :=
  match skipBlanks bs with
  | [] => .error ⟨.ended, []⟩
  | b :: rest => if b = byte '"' then readString rest else .error (wrongKind (b :: rest))

/-- A string, or `null` for none. -/
def readOptionalText (bs : Bytes) : Except Fault (Option String × Bytes) :=
  match skipBlanks bs with
  | [] => .error ⟨.ended, []⟩
  | b :: rest =>
    if b = byte 'n' then do .ok (none, ← expectWord ['u', 'l', 'l'] rest)
    else do
      let (s, rest) ← readText (b :: rest)
      .ok (some s, rest)

/-- A natural number up to a limit, where one is asked for. -/
def readNatural (limit : Nat) (bs : Bytes) : Except Fault (Nat × Bytes) :=
  match skipBlanks bs with
  | [] => .error ⟨.ended, []⟩
  | b :: rest =>
    if b = byte '-' ∨ isDigit b then do
      let (number, rest) ←
        if b = byte '-' then readNumber true rest else readNumber false (b :: rest)
      match number with
      | .natural n => if n ≤ limit then .ok (n, rest) else .error ⟨.mismatch, rest⟩
      | _ => .error ⟨.mismatch, rest⟩
    else .error (wrongKind (b :: rest))

end SaslClient.Json
