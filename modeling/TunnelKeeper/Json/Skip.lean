import TunnelKeeper.Json.Text
import TunnelKeeper.Json.Number

/-!
Passing over a JSON value that nobody asked for. Its grammar is checked, its content is not. The
brackets that are still open are kept innermost first, so values may be nested to any depth.
-/

namespace TunnelKeeper.Json

/-- An open bracket. -/
inductive Bracket where
  | list
  | object
  deriving DecidableEq, Repr

def Bracket.closing : Bracket → Char
  | list => ']'
  | object => '}'

/-- A numeral. One that ends too early is no JSON, whatever follows. -/
def skipNumeral (here : Cursor) : Reader Cursor :=
  match numeral here with
  | .ok (_, after) => .ok after
  | .error _ => .error .syntaxError

/-- Past a scalar, or past the bracket that opens a list or an object. -/
def skipToken (here : Cursor) : Reader (Option Bracket × Cursor) :=
  match here.rest with
  | [] => .error .endOfText
  | c :: _ =>
    if c = '[' then .ok (some .list, here.next)
    else if c = '{' then .ok (some .object, here.next)
    else (none, ·) <$>
      if c = 'n' then word ['n', 'u', 'l', 'l'] here
      else if c = 't' then word ['t', 'r', 'u', 'e'] here
      else if c = 'f' then word ['f', 'a', 'l', 's', 'e'] here
      else if c = '"' then skipChars here.next.rest here.next
      else if c = '-' || c.isDigit then skipNumeral here
      else .error .syntaxError

/-- Past closing brackets and at most one comma, to where the next value starts. `afterValue` says
that a value stands before the cursor, and not the opening bracket. -/
def skipClosings : List Bracket → Bool → Cursor → Reader (List Bracket × Cursor)
  | [], _, here => .ok ([], here)
  | inner :: outer, afterValue, here =>
    let start := here.skipSpace
    match start.rest with
    | [] => .error .endOfText
    | c :: _ =>
      if c = ',' && afterValue then .ok (inner :: outer, start.next)
      else if c = inner.closing then skipClosings outer true start.next
      else if afterValue then .error .syntaxError
      else .ok (inner :: outer, start)

/-- The colon between a key and its value. -/
def colon (here : Cursor) : Reader Cursor :=
  let start := here.skipSpace
  match start.rest with
  | [] => .error .endOfText
  | c :: _ => if c = ':' then .ok start.next else .error .syntaxError

/-- Past a key and its colon. -/
def skipKey (here : Cursor) : Reader Cursor := do
  let start := here.skipSpace
  match start.rest with
  | [] => .error .endOfText
  | c :: _ =>
    if c = '"' then colon (← skipChars start.next.rest start.next) else .error .syntaxError

/-- Past the value at the cursor and all that the open brackets still hold. Every round passes at
least one character. -/
def skipOpen : Nat → List Bracket → Cursor → Reader Cursor
  | 0, _, _ => .error .syntaxError
  | rounds + 1, stack, here => do
    let (opened, here) ← skipToken here.skipSpace
    let (stack, here) ← match opened with
      | some bracket => skipClosings (bracket :: stack) false here
      | none => skipClosings stack true here
    match stack with
    | [] => return here
    | .list :: _ => skipOpen rounds stack here
    | .object :: _ => skipOpen rounds stack (← skipKey here)

/-- Past the value at the cursor. -/
def skipValue (here : Cursor) : Reader Cursor := skipOpen (here.rest.length + 1) [] here

end TunnelKeeper.Json
