import TunnelKeeper.Record.Payload
import TunnelKeeper.Time.Rfc3339

/-!
Writing the data of a record as a TOML document: scalars first, one a line, then a table with a
header for every record inside.

A string is written in the plainest of the four forms that can hold it: between double quotes if it
needs no escape for a quote, a backslash or a line end, else between single quotes, else between
three of either kind.
-/

namespace TunnelKeeper.Toml

open Record (Scalar Shape FieldShape Datum RecordShape Payload)

/-! ### Strings -/

/-- A character that only an escape can stand for. -/
def isControl (c : Char) : Bool :=
  (c.toNat < 0x20 && c ≠ '\t' && c ≠ '\n') || c.toNat = 0x7f

/-- The length of the longest run of `c`; `run` of them stand directly before the text. -/
def longestRun (c : Char) : List Char → Nat → Nat
  | [], run => run
  | d :: rest, run => if d = c then longestRun c rest (run + 1) else max run (longestRun c rest 0)

/-- The forms of a string. -/
inductive QuoteForm where
  | basic
  | literal
  | multiBasic
  | multiLiteral
  deriving DecidableEq, Repr

/-- The plainest form that can hold the text. -/
def quoteForm (cs : List Char) : QuoteForm :=
  let control := cs.any isControl
  let lines := '\n' ∈ cs
  if ¬ control ∧ '\\' ∉ cs ∧ '"' ∉ cs ∧ ¬ lines then .basic
  else if ¬ control ∧ '\'' ∉ cs ∧ ¬ lines then .literal
  else if ¬ control ∧ '\\' ∉ cs ∧ longestRun '"' cs 0 ≤ 2 then .multiBasic
  else if ¬ control ∧ longestRun '\'' cs 0 ≤ 2 then .multiLiteral
  else if lines then .multiBasic
  else .basic

/-- A control character by a letter or by its number; a backslash behind another. -/
def escape (c : Char) : List Char :=
  if c = '\x08' then ['\\', 'b']
  else if c = '\t' then ['\\', 't']
  else if c = '\x0c' then ['\\', 'f']
  else if c = '\r' then ['\\', 'r']
  else if c = '\\' then ['\\', '\\']
  else if isControl c then
    ['\\', 'u', '0', '0', (Nat.digitChar (c.toNat / 16)).toUpper,
      (Nat.digitChar (c.toNat % 16)).toUpper]
  else [c]

/-- A character of a basic string on one line. -/
def escapeLine (c : Char) : List Char :=
  if c = '"' then ['\\', '"'] else if c = '\n' then ['\\', 'n'] else escape c

/-- The characters of a basic string on several lines. Every third of a run of quotes is escaped;
`run` of them stand before the text. -/
def escapeLines : List Char → Nat → List Char
  | [], _ => []
  | c :: rest, run =>
    if c = '"' then
      if run = 2 then '\\' :: '"' :: escapeLines rest 0 else '"' :: escapeLines rest (run + 1)
    else escape c ++ escapeLines rest 0

/-- The characters of a string with its quotes. -/
def quoteChars (cs : List Char) : List Char :=
  let opening (quotes : List Char) : List Char :=
    if '\n' ∈ cs then quotes ++ ['\n'] else quotes
  match quoteForm cs with
  | .basic => '"' :: cs.flatMap escapeLine ++ ['"']
  | .literal => '\'' :: cs ++ ['\'']
  | .multiBasic => opening ['"', '"', '"'] ++ escapeLines cs 0 ++ ['"', '"', '"']
  | .multiLiteral => opening ['\'', '\'', '\''] ++ cs ++ ['\'', '\'', '\'']

/-! ### Records -/

/-- Why a value cannot be written: a whole number needs more than 64 bits with a sign. -/
inductive EncodeFault where
  | outOfRange (type : String)
  deriving DecidableEq, Repr

def EncodeFault.message : EncodeFault → String
  | outOfRange type => "out-of-range value for " ++ type ++ " type"

/-- The text of a scalar; none is not written at all. -/
def scalarText? : Scalar → Except EncodeFault (Option String)
  | .none => .ok none
  | .text s => .ok (some (String.ofList (quoteChars s.toList)))
  | .integer i => if i < Int.pow 2 63 then .ok (some (toString i)) else .error (.outOfRange "u64")
  | .timestamp t => .ok (some (String.ofList (quoteChars t.text.toList)))

/-- The line of a scalar under a key. -/
def line (key : String) (value : Scalar) : Except EncodeFault String := do
  match ← scalarText? value with
  | none => return ""
  | some s => return key ++ " = " ++ s ++ "\n"

/-- The lines of a record of scalars. -/
def lines : List String → List Scalar → Except EncodeFault String
  | key :: keys, value :: values => do return (← line key value) ++ (← lines keys values)
  | _, _ => .ok ""

/-- The lines of the scalars among the fields. -/
def scalarLines : List String → List Datum → Except EncodeFault String
  | key :: keys, .scalar value :: data => do return (← line key value) ++ (← scalarLines keys data)
  | _ :: keys, .record _ :: data => scalarLines keys data
  | _, _ => .ok ""

/-- The tables of the records among the fields: their keys and their lines. -/
def tableLines (shape : RecordShape) (data : List Datum) :
    Except EncodeFault (List (String × String)) := do
  let pairs := shape.fields.zip data
  let tables ← pairs.mapM fun (field, datum) => do
    match field.shape, datum with
    | .record inner, .record values =>
      return [(field.key, ← lines (inner.fields.map (·.key)) values)]
    | _, _ => return []
  return tables.flatten

/-- A table under its header. An empty line comes before it, unless it stands first. -/
def withTable (before : String) (key : String) (lines : String) : String :=
  before ++ (if before = "" then "" else "\n") ++ "[" ++ key ++ "]\n" ++ lines

/-- The document of the data of a record. -/
def dataText (shape : RecordShape) (data : List Datum) : Except EncodeFault String := do
  let scalars ← scalarLines (shape.fields.map (·.key)) data
  let tables ← tableLines shape data
  return tables.foldl (fun before (key, lines) => withTable before key lines) scalars

/-- The document of a value. -/
def encode [Payload α] (value : α) : Except EncodeFault String :=
  dataText (Payload.shape α) (Payload.toData value)

end TunnelKeeper.Toml
