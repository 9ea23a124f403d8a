import TunnelKeeper.Decimal.Notation
import TunnelKeeper.Record.Fault
import TunnelKeeper.Record.Payload
import TunnelKeeper.Toml.Reader

/-!
The data of a record in a TOML document.

A record is a table with its keys in any order, where unknown keys are passed over, or an array of
the values in the order of the fields. A missing field takes its fallback. Of several faults the one
that stands first in the document is reported, a missing field last.
-/

namespace TunnelKeeper.Toml

open Record (Fault Found Scalar ScalarShape Field Shape FieldShape Datum RecordShape Payload)

/-- What stands in the place of a value. A date or a time counts as a map. -/
def Value.found : Value → Found
  | text s => .text s
  | integer i => .integer i
  | float x => .float x
  | boolean b => .boolean b
  | moment => .map
  | array _ => .sequence
  | table _ _ => .map
  | tables _ => .sequence

def Value.wrongType (value : Value) (expected : String) : Except Fault α :=
  .error (.wrongType value.found expected)

def readScalar : ScalarShape → Value → Except Fault Scalar
  | .text, .text s => .ok (.text s)
  | .optionalText, .text s => .ok (.text s)
  | .integer range, .integer i => .integer <$> range.check i
  | .timestamp, .text s =>
    match Instant.parse s with
    | .ok t => .ok (.timestamp t)
    | .error fault => .error (.badTimestamp fault)
  | shape, value => value.wrongType shape.expected

section Record

variable {σ δ : Type} (readField : σ → Value → Except Fault δ)

/-- The values under the keys of the fields, in the order of the table. -/
def readEntries (shape : Shape σ δ) : Entries → Except Fault (List (String × δ))
  | [] => .ok []
  | (key, value) :: entries =>
    match shape.field? key with
    | none => readEntries shape entries
    | some field => do
      let datum ← readField field.shape value
      return (key, datum) :: (← readEntries shape entries)

/-- One value for each field. `count` values stand before these. -/
def readItems (shape : Shape σ δ) : List (Field σ δ) → Nat → List Value → Except Fault (List δ)
  | [], _, _ => .ok []
  | field :: fields, count, value :: values => do
    let datum ← readField field.shape value
    return datum :: (← readItems shape fields (count + 1) values)
  | field :: fields, count, [] =>
    match field.fallback with
    | some datum => (datum :: ·) <$> readItems shape fields count []
    | none => .error (.wrongLength count shape.expectedElements)

/-- The values of a record. -/
def readRecord (shape : Shape σ δ) : Value → Except Fault (List δ)
  | .table _ entries => do Record.complete shape.fields (← readEntries readField shape entries)
  | .moment => Record.complete shape.fields []
  | .array values => readItems readField shape shape.fields 0 values
  | .tables all => readItems readField shape shape.fields 0 (all.map (.table .header))
  | value => value.wrongType shape.expected

end Record

def readField : FieldShape → Value → Except Fault Datum
  | .scalar shape, value => .scalar <$> readScalar shape value
  | .record shape, value => .record <$> readRecord readScalar shape value

/-- Why a document gives no value: it is no TOML, or its data is wrong. -/
inductive DecodeFault where
  | syntaxError
  | data (fault : Fault)

def DecodeFault.message : DecodeFault → String
  | syntaxError => "not a TOML document"
  | data fault => fault.message Decimal.plainText

/-- The value that a document holds. -/
def decode (α : Type) [Payload α] (s : String) : Except DecodeFault α :=
  match document s with
  | none => .error .syntaxError
  | some entries =>
    match readRecord readField (Payload.shape α) (.table .header entries) with
    | .error fault => .error (.data fault)
    | .ok data =>
      match Payload.ofData? data with
      | some value => .ok value
      | none => .error .syntaxError

end TunnelKeeper.Toml
