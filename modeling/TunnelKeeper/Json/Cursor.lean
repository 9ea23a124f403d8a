import TunnelKeeper.Decimal.Notation
import TunnelKeeper.Record.Fault

/-!
Reading a JSON text from left to right: the place that reading has reached, what can go wrong
there, and the words `null`, `true` and `false`.
-/

namespace TunnelKeeper.Json

/-- The text that is left, with the line and the column reached. Columns count bytes. -/
structure Cursor where
  rest : List Char
  line : Nat := 1
  column : Nat := 0
  deriving DecidableEq, Repr

/-- Why a text could not be read: it is no JSON, it ends too early, or the data is not what the
record asks for. -/
inductive Fault where
  | syntaxError
  | endOfText
  | data (fault : Record.Fault) (line column : Nat)

/-- Faults of the data are explained, with their place. -/
def Fault.message : Fault → String
  | syntaxError => "not a JSON text"
  | endOfText => "unexpected end of the JSON text"
  | data fault line column =>
    fault.message Decimal.compactText ++ " at line " ++ toString line ++ " column " ++
      toString column

abbrev Reader := Except Fault

namespace Cursor

def ofString (s : String) : Cursor := { rest := s.toList }

/-- The cursor behind the character `c`, with `rest` left. -/
def past (here : Cursor) (c : Char) (rest : List Char) : Cursor :=
  if c = '\n' then ⟨rest, here.line + 1, 0⟩ else ⟨rest, here.line, here.column + c.utf8Size⟩

/-- One character further. -/
def next (here : Cursor) : Cursor :=
  match here.rest with
  | [] => here
  | c :: rest => here.past c rest

def isSpace (c : Char) : Bool := c = ' ' || c = '\n' || c = '\t' || c = '\r'

/-- Past the characters of `cs`, as long as `p` holds, starting at `here`. -/
def skipFrom (p : Char → Bool) : List Char → Cursor → Cursor
  | [], here => here
  | c :: cs, here => if p c then skipFrom p cs (here.past c cs) else here

/-- Past the characters for which `p` holds. -/
def skipWhile (p : Char → Bool) (here : Cursor) : Cursor := skipFrom p here.rest here

def skipSpace (here : Cursor) : Cursor := here.skipWhile isSpace

/-- The data at hand is wrong. -/
def fault (here : Cursor) (f : Record.Fault) : Fault := .data f here.line here.column

end Cursor

/-- The characters of `word`. -/
def word : List Char → Cursor → Reader Cursor
  | [], here => .ok here
  | c :: cs, here =>
    match here.rest with
    | [] => .error .endOfText
    | d :: _ => if d = c then word cs here.next else .error .syntaxError

/-- Nothing but white space is left. -/
def atEnd (here : Cursor) : Reader Unit :=
  if here.skipSpace.rest = [] then .ok () else .error .syntaxError

end TunnelKeeper.Json
