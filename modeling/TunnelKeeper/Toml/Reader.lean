import TunnelKeeper.Toml.Number
import TunnelKeeper.Toml.Quote

/-!
Reading a TOML document: keys, values, and the lines that make up a document. Arrays and inline
tables may be nested up to a depth.
-/

namespace TunnelKeeper.Toml

/-! ### Keys -/

def isBareKeyChar (c : Char) : Bool := c.isAlphanum || c = '_' || c = '-'

/-- A key without dots. -/
def simpleKey : Scan String
  | '"' :: rest => do
    let (cs, rest) ← basicChars rest
    return (String.ofList cs, rest)
  | '\'' :: rest => do
    let (cs, rest) ← literalChars rest
    return (String.ofList cs, rest)
  | cs =>
    match cs.takeWhile isBareKeyChar with
    | [] => none
    | key => some (String.ofList key, cs.dropWhile isBareKeyChar)

/-- Keys between dots, blanks around each. Every round passes at least one character. -/
def keys : Nat → Scan (List String)
  | 0, _ => none
  | rounds + 1, cs => do
    let (key, rest) ← simpleKey (skipSpaces cs)
    match skipSpaces rest with
    | '.' :: rest => do
      let (more, rest) ← keys rounds rest
      return (key :: more, rest)
    | rest => return ([key], rest)

/-- The number of values that may be nested, and of keys that a dotted key may have. -/
def depthLimit : Nat := 80

/-- A key that may be dotted: the path and the last key. -/
def dottedKey (cs : List Char) : Option ((List String × String) × List Char) := do
  let (all, rest) ← keys (cs.length + 1) cs
  if all.length < depthLimit then return ((all.dropLast, ← all.getLast?), rest) else none

/-! ### Values -/

section Nested

variable (item : Scan Value)

/-- The items of an array up to its end. -/
def items : Nat → Scan (List Value)
  | 0, _ => none
  | rounds + 1, cs =>
    match gap cs with
    | ']' :: rest => some ([], rest)
    | cs => do
      let (value, rest) ← item cs
      match gap rest with
      | ',' :: rest => do
        let (values, rest) ← items rounds rest
        return (value :: values, rest)
      | ']' :: rest => return ([value], rest)
      | _ => none

/-- The pairs of an inline table up to its end, added to `entries`. -/
def members : Nat → Entries → Scan Entries
  | 0, _, _ => none
  | rounds + 1, entries, cs => do
    let ((path, key), rest) ← dottedKey cs
    let (value, rest) ← item (skipSpaces (← exactly '=' rest))
    let entries ← entries.addDotted .inlineDotted key value .inline path
    match skipSpaces rest with
    | ',' :: rest => members rounds entries rest
    | '\x7d' :: rest => return (entries, rest)
    | _ => none

/-- The inside of an inline table and its end. -/
def inlineTable (cs : List Char) : Option (Value × List Char) :=
  match skipSpaces cs with
  | '\x7d' :: rest => some (.table .inline [], rest)
  | cs => do
    let (entries, rest) ← members item cs.length [] cs
    return (.table .inline entries, rest)

end Nested

/-- A value that may hold values `depth` levels deep. -/
def value : Nat → Scan Value
  | _, [] => none
  | depth, c :: rest =>
    if c = '"' ∨ c = '\'' then do
      let (cs, rest) ← quote (c :: rest)
      return (.text (String.ofList cs), rest)
    else if c = '[' then
      match depth with
      | 0 => none
      | depth + 1 => do
        let (values, rest) ← items (value depth) (rest.length + 1) rest
        return (.array values, rest)
    else if c = '\x7b' then
      match depth with
      | 0 => none
      | depth + 1 => inlineTable (value depth) rest
    else
      match c, rest with
      | 't', 'r' :: 'u' :: 'e' :: rest => some (.boolean true, rest)
      | 'f', 'a' :: 'l' :: 's' :: 'e' :: rest => some (.boolean false, rest)
      | c, rest => (moment (c :: rest)).or (number (c :: rest))

/-! ### Documents -/

/-- A key and its value on the line at hand. -/
def pairLine (draft : Draft) (cs : List Char) : Option (Draft × List Char) := do
  let ((path, key), rest) ← dottedKey cs
  let (v, rest) ← value (depthLimit - 1) (skipSpaces (← exactly '=' rest))
  return (← draft.addPair path key v, ← restOfLine? rest)

/-- A header behind its first bracket. -/
def headerLine (draft : Draft) : List Char → Option (Draft × List Char)
  | '[' :: cs => do
    let ((path, key), rest) ← dottedKey cs
    let rest ← exactly ']' (← exactly ']' rest)
    return (← draft.openTables path key, ← restOfLine? rest)
  | cs => do
    let ((path, key), rest) ← dottedKey cs
    let rest ← exactly ']' rest
    return (← draft.openHeader path key, ← restOfLine? rest)

/-- The lines of a document. Every round passes at least one character. -/
def documentLines : Nat → Draft → List Char → Option Draft
  | 0, draft, cs => if cs = [] then some draft else none
  | rounds + 1, draft, cs =>
    match skipSpaces cs with
    | [] => some draft
    | '#' :: rest => do documentLines rounds draft (← restOfLine? ('#' :: rest))
    | '[' :: rest => do
      let (draft, rest) ← headerLine draft rest
      documentLines rounds draft rest
    | cs =>
      match newline? cs with
      | some rest => documentLines rounds draft rest
      | none => do
        let (draft, rest) ← pairLine draft cs
        documentLines rounds draft rest

/-- A byte order mark at the start does not count. -/
def dropMark : List Char → List Char
  | '\ufeff' :: rest => rest
  | cs => cs

/-- The table that a document stands for, unless it is no TOML. -/
def document (s : String) : Option Entries := do
  let cs := dropMark s.toList
  (← documentLines (cs.length + 1) {} cs).close

end TunnelKeeper.Toml
