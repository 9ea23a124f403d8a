import TunnelKeeper.Record.Shape

/-!
Types whose values are records: a shape, the data of a value, and the value of data of that shape.
A format that writes and reads the data of a shape thereby writes and reads the type.
-/

namespace TunnelKeeper.Record

/-- The type is described by a record. -/
class Payload (α : Type) where
  shape : RecordShape
  toData : α → List Datum
  /-- The value of data that has the shape. -/
  ofData? : List Datum → Option α

/-- A record of scalars, where any fields are allowed. -/
def FlatShape.widen (shape : FlatShape) : RecordShape where
  name := shape.name
  fields := shape.fields.map fun f => ⟨f.key, .scalar f.shape, f.fallback.map .scalar⟩

def Datum.scalar? : Datum → Option Scalar
  | scalar value => some value
  | record _ => none

/-- The data of a scalar that holds a text, if there is one. -/
def Scalar.ofText? : Option String → Scalar
  | some s => .text s
  | Option.none => .none

end TunnelKeeper.Record
