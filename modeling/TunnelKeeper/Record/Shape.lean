import TunnelKeeper.Time.Instant

/-!
Records: named fields in a fixed order, independent of the format they are written in. A shape
says what each field holds; the data of a record is the list of its fields' values.
-/

namespace TunnelKeeper.Record

/-- The whole numbers of a fixed width, by the name that messages give them. -/
structure IntRange where
  name : String
  least : Int
  most : Int
  deriving DecidableEq, Repr

def u16 : IntRange := ⟨"u16", 0, Int.pow 2 16 - 1⟩
def u32 : IntRange := ⟨"u32", 0, Int.pow 2 32 - 1⟩
def u64 : IntRange := ⟨"u64", 0, Int.pow 2 64 - 1⟩
def i64 : IntRange := ⟨"i64", -Int.pow 2 63, Int.pow 2 63 - 1⟩

def IntRange.Holds (r : IntRange) (i : Int) : Prop := r.least ≤ i ∧ i ≤ r.most

instance (r : IntRange) (i : Int) : Decidable (r.Holds i) := by
  unfold IntRange.Holds; infer_instance

/-- What a field without fields of its own holds. -/
inductive ScalarShape where
  | text
  | optionalText
  | integer (range : IntRange)
  | timestamp
  deriving DecidableEq, Repr

/-- The words for it in a message. -/
def ScalarShape.expected : ScalarShape → String
  | text => "a string"
  | optionalText => "a string"
  | integer range => range.name
  | timestamp => "an RFC 3339 formatted date and time string"

inductive Scalar where
  | none
  | text (s : String)
  | integer (i : Int)
  | timestamp (t : Instant)
  deriving DecidableEq, Repr, Inhabited

/-- The value has the shape, and is one that can be told from its text. -/
def ScalarShape.Fits : ScalarShape → Scalar → Prop
  | text, .text _ => True
  | optionalText, .none => True
  | optionalText, .text _ => True
  | integer range, .integer i => range.Holds i
  | timestamp, .timestamp t => t.Representable ∧ t.LeapEndsMinute
  | _, _ => False

/-- A field: its key, what it holds, and the value it takes when it is missing. -/
structure Field (σ δ : Type) where
  key : String
  shape : σ
  fallback : Option δ := none

/-- A record whose fields hold `δ`, as described by `σ`. -/
structure Shape (σ δ : Type) where
  name : String
  fields : List (Field σ δ)

namespace Shape

variable {σ δ : Type}

/-- The words for the record in a message. -/
def expected (shape : Shape σ δ) : String := "struct " ++ shape.name

/-- The words for the list of its values. -/
def expectedElements (shape : Shape σ δ) : String :=
  let n := shape.fields.length
  shape.expected ++ " with " ++ toString n ++ (if n = 1 then " element" else " elements")

/-- The field of a key. -/
def field? (shape : Shape σ δ) (key : String) : Option (Field σ δ) :=
  shape.fields.find? (·.key = key)

end Shape

/-- A record of scalars. -/
abbrev FlatShape := Shape ScalarShape Scalar

/-- What a field of a record holds: a scalar or a record of scalars. -/
inductive FieldShape where
  | scalar (shape : ScalarShape)
  | record (shape : FlatShape)

inductive Datum where
  | scalar (value : Scalar)
  | record (values : List Scalar)
  deriving DecidableEq, Repr, Inhabited

abbrev RecordShape := Shape FieldShape Datum

/-- A required field that holds a scalar. -/
def required (key : String) (shape : ScalarShape) : Field FieldShape Datum := ⟨key, .scalar shape, none⟩

end TunnelKeeper.Record
