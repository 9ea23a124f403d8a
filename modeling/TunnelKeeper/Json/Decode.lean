import TunnelKeeper.Json.Skip
import TunnelKeeper.Record.Payload

/-!
Reading the data of a record from a JSON text.

A record is an object with the fields in any order, where unknown keys are passed over, or a list
of the values in the order of the fields. A missing field takes its fallback. What is wrong with a
value is reported at the place behind it; what is wrong with the record as a whole, at its end.
-/

namespace TunnelKeeper.Json

open Record (Found Scalar ScalarShape Field Shape FlatShape FieldShape Datum RecordShape)

/-! ### Scalars -/

/-- The value at the cursor is of another type than `expected`. It is passed over, unless it is a
list or an object. -/
def wrongType (expected : String) (here : Cursor) : Reader α :=
  let report (found : Found) (place : Cursor) : Reader α := .error (place.fault (.wrongType found expected))
  match here.rest with
  | [] => .error .endOfText
  | c :: _ =>
    if c = 'n' then do report .null (← word ['n', 'u', 'l', 'l'] here)
    else if c = 't' then do report (.boolean true) (← word ['t', 'r', 'u', 'e'] here)
    else if c = 'f' then do report (.boolean false) (← word ['f', 'a', 'l', 's', 'e'] here)
    else if c = '-' || c.isDigit then do
      let (n, after) ← number here
      report n.found after
    else if c = '"' then do
      let (s, after) ← textBody here.next
      report (.text s) after
    else if c = '[' then report .sequence here
    else if c = '{' then report .map here
    else .error .syntaxError

/-- A string. -/
def readText (expected : String) (here : Cursor) : Reader (String × Cursor) :=
  let start := here.skipSpace
  if start.rest.head? = some '"' then textBody start.next else wrongType expected start

/-- A whole number of a range. -/
def readInteger (range : Record.IntRange) (here : Cursor) : Reader (Int × Cursor) :=
  let start := here.skipSpace
  match start.rest with
  | [] => .error .endOfText
  | c :: _ =>
    if c = '-' || c.isDigit then do
      match ← number start with
      | (.integer i, after) =>
        match range.check i with
        | .ok i => return (i, after)
        | .error fault => .error (after.fault fault)
      | (.float x, after) => .error (after.fault (.wrongType (.float x) range.name))
    else wrongType range.name start

/-- The value of a field without fields of its own. -/
def readScalar : ScalarShape → Cursor → Reader (Scalar × Cursor)
  | .text, here => do
    let (s, after) ← readText ScalarShape.text.expected here
    return (.text s, after)
  | .optionalText, here => do
    let start := here.skipSpace
    if start.rest.head? = some 'n' then
      return (.none, ← word ['n', 'u', 'l', 'l'] start)
    else
      let (s, after) ← readText ScalarShape.optionalText.expected start
      return (.text s, after)
  | .integer range, here => do
    let (i, after) ← readInteger range here
    return (.integer i, after)
  | .timestamp, here => do
    let (s, after) ← readText ScalarShape.timestamp.expected here
    match Instant.parse s with
    | .ok t => return (.timestamp t, after)
    | .error fault => .error (after.fault (.badTimestamp fault))

/-! ### Records -/

/-- What reading the inside of a record gives: its values, or what is wrong with the record as a
whole, and the cursor before the closing bracket. -/
abbrev Inside (δ : Type) := Except Record.Fault (List δ) × Cursor

section Record

variable {σ δ : Type} (readField : σ → Cursor → Reader (δ × Cursor))

/-- The next key of an object, or `none` before the closing brace. -/
def nextKey (first : Bool) (here : Cursor) : Reader (Option String × Cursor) :=
  let start := here.skipSpace
  match start.rest with
  | [] => .error .endOfText
  | c :: _ =>
    if c = '}' then .ok (none, start)
    else
      let key := if first then start else start.next.skipSpace
      if first || c = ',' then
        match key.rest with
        | [] => .error .endOfText
        | d :: _ =>
          if d = '"' then do
            let (name, after) ← textBody key.next
            return (some name, after)
          else .error .syntaxError
      else .error .syntaxError

/-- The members of an object; `found` holds the values read so far. Every round passes at least one
character. -/
def readMembers (shape : Shape σ δ) : Nat → Bool → List (String × δ) → Cursor →
    Reader (Inside δ)
  | 0, _, _, _ => .error .syntaxError
  | rounds + 1, first, found, here => do
    match ← nextKey first here with
    | (none, after) => return (Record.complete shape.fields found, after)
    | (some key, after) =>
      match shape.field? key with
      | none => readMembers shape rounds false found (← skipValue (← colon after))
      | some field =>
        if (found.lookup key).isSome then return (.error (.duplicateField key), after)
        else
          let (value, after) ← readField field.shape (← colon after)
          readMembers shape rounds false ((key, value) :: found) after

/-- To the next element of a list, or `none` before the closing bracket. -/
def nextElement (first : Bool) (here : Cursor) : Reader (Bool × Cursor) :=
  let start := here.skipSpace
  match start.rest with
  | [] => .error .endOfText
  | c :: _ =>
    if c = ']' then .ok (false, start)
    else if first then .ok (true, start)
    else if c = ',' then
      let element := start.next.skipSpace
      match element.rest with
      | [] => .error .endOfText
      | d :: _ => if d = ']' then .error .syntaxError else .ok (true, element)
    else .error .syntaxError

/-- The elements of a list, one for each field; `count` have been read. -/
def readElements (shape : Shape σ δ) : List (Field σ δ) → Nat → Cursor → Reader (Inside δ)
  | [], _, here => return (.ok [], here)
  | field :: fields, count, here => do
    let (more, start) ← nextElement (count = 0) here
    if more then
      let (value, after) ← readField field.shape start
      let (rest, after) ← readElements shape fields (count + 1) after
      return ((value :: ·) <$> rest, after)
    else
      match field.fallback with
      | none => return (.error (.wrongLength count shape.expectedElements), start)
      | some value =>
        let (rest, after) ← readElements shape fields count start
        return ((value :: ·) <$> rest, after)

/-- The end of a record whose inside has been read: a fault of the record is reported here. -/
def closeRecord (bracket : Char) : Inside δ → Reader (List δ × Cursor)
  | (values, here) =>
    let start := here.skipSpace
    let after := if start.rest.head? = some bracket then start.next else start
    match values with
    | .error fault => .error (after.fault fault)
    | .ok values =>
      match start.rest with
      | [] => .error .endOfText
      | c :: _ => if c = bracket then .ok (values, after) else .error .syntaxError

/-- The values of a record. -/
def readRecord (shape : Shape σ δ) (here : Cursor) : Reader (List δ × Cursor) :=
  let start := here.skipSpace
  match start.rest with
  | [] => .error .endOfText
  | c :: rest =>
    if c = '{' then do
      closeRecord '}' (← readMembers readField shape (rest.length + 1) true [] start.next)
    else if c = '[' then do
      closeRecord ']' (← readElements readField shape shape.fields 0 start.next)
    else wrongType shape.expected start

end Record

def readField : FieldShape → Cursor → Reader (Datum × Cursor)
  | .scalar shape, here => do
    let (value, after) ← readScalar shape here
    return (.scalar value, after)
  | .record shape, here => do
    let (values, after) ← readRecord readScalar shape here
    return (.record values, after)

/-- The data of a record that a whole text holds. -/
def readData (shape : RecordShape) (s : String) : Reader (List Datum) := do
  let (values, after) ← readRecord readField shape (.ofString s)
  atEnd after
  return values

/-- The value that a text holds. -/
def decode (α : Type) [Record.Payload α] (s : String) : Reader α := do
  match Record.Payload.ofData? (← readData (Record.Payload.shape α) s) with
  | some value => return value
  | none => .error .syntaxError

/-! ### Names -/

/-- One of several names. -/
def readName (choices : List String) (here : Cursor) : Reader (String × Cursor) := do
  let (name, after) ← readText "variant identifier" here
  if name ∈ choices then return (name, after)
  else .error (after.fault (.unknownVariant name choices))

/-- One of several names, alone or as the only key of an object that holds `null`. -/
def readChoice (choices : List String) (here : Cursor) : Reader (String × Cursor) :=
  let start := here.skipSpace
  match start.rest with
  | [] => .error .endOfText
  | c :: _ =>
    if c = '"' then readName choices start
    else if c = '{' then do
      let (name, after) ← readName choices start.next
      let value := (← colon after).skipSpace
      let after ← if value.rest.head? = some 'n' then word ['n', 'u', 'l', 'l'] value
        else wrongType "unit" value
      let last := after.skipSpace
      match last.rest with
      | [] => .error .endOfText
      | d :: _ => if d = '}' then return (name, last.next) else .error .syntaxError
    else .error .syntaxError

/-- The name that a whole text holds. -/
def decodeChoice (choices : List String) (s : String) : Reader String := do
  let (name, after) ← readChoice choices (.ofString s)
  atEnd after
  return name

end TunnelKeeper.Json
