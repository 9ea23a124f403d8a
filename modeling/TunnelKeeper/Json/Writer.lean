import TunnelKeeper.Json.Text
import TunnelKeeper.Record.Payload

/-!
Writing the data of a record as JSON without any white space, the fields in their order.
-/

namespace TunnelKeeper.Json

open Record (Scalar Shape FieldShape Datum RecordShape Payload)

def scalarText : Scalar → String
  | .none => "null"
  | .text s => text s
  | .integer i => toString i
  | .timestamp t => text t.text

/-- The members of an object in braces. -/
def objectText (members : List (String × String)) : String :=
  let texts := members.map fun (key, value) => text key ++ ":" ++ value
  "\x7b" ++ ",".intercalate texts ++ "\x7d"

/-- The values of a record under the keys of its fields. -/
def recordText {σ δ : Type} (shape : Shape σ δ) (values : List String) : String :=
  objectText ((shape.fields.map (·.key)).zip values)

def datumText : FieldShape → Datum → String
  | .record shape, .record values => recordText shape (values.map scalarText)
  | _, .scalar value => scalarText value
  | .scalar _, .record _ => "null"

/-- The text of the data of a record. -/
def dataText (shape : RecordShape) (data : List Datum) : String :=
  recordText shape ((shape.fields.map (·.shape)).zipWith datumText data)

/-- The text of a value. -/
def encode [Payload α] (value : α) : String :=
  dataText (Payload.shape α) (Payload.toData value)

end TunnelKeeper.Json
