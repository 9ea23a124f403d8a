import TunnelKeeper.Record.Shape
import TunnelKeeper.Text.Quoted
import TunnelKeeper.Time.Rfc3339

/-!
What can be wrong with the data of a record: a value of another type or out of range, a field that
is missing or there twice, a list of the wrong length, an unknown name.
-/

namespace TunnelKeeper.Record

/-- What was found in the place of a value. -/
inductive Found where
  | null
  | boolean (b : Bool)
  | integer (i : Int)
  | float (x : Float)
  | text (s : String)
  | sequence
  | map

/-- The words for it. Formats differ in the way they write a float. -/
def Found.describe (floatText : Float → String) : Found → String
  | null => "null"
  | boolean b => "boolean " ++ (if b then "`true`" else "`false`")
  | integer i => "integer `" ++ toString i ++ "`"
  | float x => "floating point `" ++ floatText x ++ "`"
  | text s => "string " ++ quoted s
  | sequence => "sequence"
  | map => "map"

inductive Fault where
  | wrongType (found : Found) (expected : String)
  | wrongValue (found : Found) (expected : String)
  | wrongLength (length : Nat) (expected : String)
  | missingField (key : String)
  | duplicateField (key : String)
  | unknownVariant (name : String) (choices : List String)
  | badTimestamp (fault : TimestampFault)

/-- A list of names to choose from, each between backquotes. -/
def choiceText (choices : List String) : String :=
  let marked := choices.map fun name => "`" ++ name ++ "`"
  match marked with
  | [a] => a
  | [a, b] => a ++ " or " ++ b
  | _ => "one of " ++ ", ".intercalate marked

def Fault.message (floatText : Float → String) : Fault → String
  | wrongType found expected =>
    "invalid type: " ++ found.describe floatText ++ ", expected " ++ expected
  | wrongValue found expected =>
    "invalid value: " ++ found.describe floatText ++ ", expected " ++ expected
  | wrongLength length expected =>
    "invalid length " ++ toString length ++ ", expected " ++ expected
  | missingField key => "missing field `" ++ key ++ "`"
  | duplicateField key => "duplicate field `" ++ key ++ "`"
  | unknownVariant name choices =>
    "unknown variant `" ++ name ++ "`, expected " ++ choiceText choices
  | badTimestamp fault => fault.message

/-- The integer, if it is in range. -/
def IntRange.check (range : IntRange) (i : Int) : Except Fault Int :=
  if range.Holds i then .ok i else .error (.wrongValue (.integer i) range.name)

/-- Every field takes the value that was read for its key, or its fallback. -/
def complete {σ δ : Type} : List (Field σ δ) → List (String × δ) → Except Fault (List δ)
  | [], _ => .ok []
  | field :: fields, found =>
    match (found.lookup field.key).or field.fallback with
    | some value => (value :: ·) <$> complete fields found
    | none => .error (.missingField field.key)

end TunnelKeeper.Record
