import SaslClient.Json.Value

/-!
# JSON records

A record is read from an object, by the names of its fields, or from a list, by their order. What is
wrong with the record as a whole (a field twice, a field missing, a field too many) is reported
behind the bracket that closes it, if that bracket is next; what is wrong with a value is reported
at the value.
-/

namespace SaslClient.Json

/-- A field of a record that is being filled in. -/
structure Field (σ : Type) where
  name : String
  isFilled : σ → Bool
  read : σ → Bytes → Except Fault (σ × Bytes)

/-- How a record is read. -/
structure Shape (σ τ : Type) where
  /-- Nothing filled in. -/
  start : σ
  /-- The fields, in the order of the list form. -/
  fields : List (Field σ)
  /-- Whether an object may have other fields, which are skipped. -/
  skipsOthers : Bool
  /-- The record, unless something is missing or out of range. -/
  finish : σ → Option τ

/-- Why reading the inside of a record stops: a fault with its place, or a fault of the record as a
whole, noticed with `rest` left. -/
inductive Halt where
  | fault (f : Fault)
  | unfit (rest : Bytes)

/-- A fault with its place ends the reading of a record. -/
def located {α : Type} (r : Except Fault α) : Except Halt α :=
  r.mapError .fault

/-- The rest behind the colon of a field. -/
def readColon (bs : Bytes) : Except Fault Bytes :=
  match skipBlanks bs with
  | [] => .error ⟨.ended, []⟩
  | b :: rest => if b = byte ':' then .ok rest else .error ⟨.malformed, rest⟩

/-- The key of the next field of an object, or nothing before its end. -/
def readKey (isFirst : Bool) (bs : Bytes) : Except Fault (Option String × Bytes) :=
  let key (bs : Bytes) : Except Fault (Option String × Bytes) :=
    match bs with
    | [] => .error ⟨.ended, []⟩
    | b :: rest =>
      if b = byte '"' then do
        let (s, rest) ← readString rest
        .ok (some s, rest)
      else .error ⟨.malformed, rest⟩
  match skipBlanks bs with
  | [] => .error ⟨.ended, []⟩
  | b :: rest =>
    if b = 0x7D then .ok (none, b :: rest)
    else if isFirst then key (b :: rest)
    else if b = byte ',' then key (skipBlanks rest)
    else .error ⟨.malformed, rest⟩

/-- The start of the next element of a list, or nothing before its end. -/
def nextElement (isFirst : Bool) (bs : Bytes) : Except Fault (Option Bytes) :=
  match skipBlanks bs with
  | [] => .error ⟨.ended, []⟩
  | b :: rest =>
    if b = byte ']' then .ok none
    else if isFirst then .ok (some (b :: rest))
    else if b = byte ',' then
      match skipBlanks rest with
      | [] => .error ⟨.ended, []⟩
      | b :: rest => if b = byte ']' then .error ⟨.malformed, rest⟩ else .ok (some (b :: rest))
    else .error ⟨.malformed, rest⟩

/-- The fields of an object, in at most so many rounds; each field takes one. -/
def readMembers {σ τ : Type} (shape : Shape σ τ) :
    (rounds : Nat) → (isFirst : Bool) → σ → Bytes → Except Halt (τ × Bytes)
  | 0, _, _, bs => .error (.unfit bs)
  | rounds + 1, isFirst, filled, bs => do
    match ← located (readKey isFirst bs) with
    | (none, rest) =>
      match shape.finish filled with
      | some record => .ok (record, rest)
      | none => .error (.unfit rest)
    | (some key, rest) =>
      match shape.fields.find? (·.name == key) with
      | some field =>
        if field.isFilled filled then .error (.unfit rest)
        else
          let (filled, rest) ← located (readColon rest >>= field.read filled)
          readMembers shape rounds false filled rest
      | none =>
        if shape.skipsOthers then
          let rest ← located (readColon rest >>= skipValue)
          readMembers shape rounds false filled rest
        else .error (.unfit rest)

/-- The fields of a list, one after the other. -/
def readElements {σ τ : Type} (shape : Shape σ τ) :
    List (Field σ) → (isFirst : Bool) → σ → Bytes → Except Halt (τ × Bytes)
  | [], _, filled, bs =>
    match shape.finish filled with
    | some record => .ok (record, bs)
    | none => .error (.unfit bs)
  | field :: fields, isFirst, filled, bs => do
    match ← located (nextElement isFirst bs) with
    | none => .error (.unfit (skipBlanks bs))
    | some element =>
      let (filled, rest) ← located (field.read filled element)
      readElements shape fields false filled rest

/-- The rest behind the end of an object. -/
def closeObject (bs : Bytes) : Except Fault Bytes :=
  match skipBlanks bs with
  | [] => .error ⟨.ended, []⟩
  | b :: rest => if b = 0x7D then .ok rest else .error ⟨.malformed, rest⟩

/-- The rest behind the end of a list. -/
def closeList (bs : Bytes) : Except Fault Bytes :=
  match skipBlanks bs with
  | [] => .error ⟨.ended, []⟩
  | b :: rest =>
    if b = byte ']' then .ok rest
    else if b = byte ',' then .error (Fault.ahead .malformed (skipBlanks rest))
    else .error ⟨.malformed, rest⟩

/-- What is left when the end of an object, if it is next, has been passed. -/
def passObjectEnd (bs : Bytes) : Bytes :=
  match skipBlanks bs with
  | [] => []
  | b :: rest => if b = 0x7D then rest else b :: rest

/-- What is left when the end of a list or a comma, if one is next, has been passed. -/
def passListEnd (bs : Bytes) : Bytes :=
  match skipBlanks bs with
  | [] => []
  | b :: rest =>
    if b = byte ']' then rest else if b = byte ',' then skipBlanks rest else b :: rest

/-- The inside of a record, closed; `pass` says where a fault of the record as a whole shows. -/
def closeRecord {τ : Type} (inside : Except Halt (τ × Bytes))
    (close : Bytes → Except Fault Bytes) (pass : Bytes → Bytes) : Except Fault (τ × Bytes) :=
  match inside with
  | .ok (record, rest) => do .ok (record, ← close rest)
  | .error (.fault f) => .error f
  | .error (.unfit rest) => .error ⟨.mismatch, pass rest⟩

/-- A record. -/
def readRecord {σ τ : Type} (shape : Shape σ τ) (bs : Bytes) : Except Fault (τ × Bytes) :=
  match skipBlanks bs with
  | [] => .error ⟨.ended, []⟩
  | b :: rest =>
    if b = byte '[' then
      closeRecord (readElements shape shape.fields true shape.start rest) closeList passListEnd
    else if b = 0x7B then
      closeRecord (readMembers shape (rest.length + 1) true shape.start rest) closeObject
        passObjectEnd
    else .error (wrongKind (b :: rest))

/-- The record that a text holds, with nothing but blanks behind it; or the fault and its place. -/
def parseRecord {σ τ : Type} (shape : Shape σ τ) (text : String) :
    Except (Category × Location) τ :=
  let bytes := Utf8.encode text
  let whole : Except Fault τ := do
    let (record, rest) ← readRecord shape bytes
    match skipBlanks rest with
    | [] => .ok record
    | _ :: rest => .error ⟨.malformed, rest⟩
  whole.mapError fun fault => (fault.category, Location.of bytes fault.rest)

end SaslClient.Json
