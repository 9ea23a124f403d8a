import TunnelKeeper.Json.Cursor

/-!
Numbers of a JSON text. Whole numbers that fit 64 bits are read exactly; all others, and `-0`, are
floats, computed from the leading digits that fit 64 bits and a power of ten.
-/

namespace TunnelKeeper.Json

inductive Number where
  | integer (i : Int)
  | float (x : Float)

/-- The parts of a number as written. -/
structure Numeral where
  negative : Bool
  whole : List Char
  fraction : List Char := []
  /-- The sign and the digits of an exponent; `true` is negative. -/
  exponent : Bool × List Char := (false, [])
  /-- There is neither a fraction nor an exponent. -/
  isWhole : Bool := true

/-- The value of a string of digits. -/
def decimalValue (digits : List Char) : Nat := digits.foldl (fun n c => n * 10 + (c.toNat - 48)) 0

/-- `n` followed by as many of the digits as fit below `bound`, and how many do. -/
def appendDigits (bound : Nat) : Nat → List Char → Nat × Nat
  | n, [] => (n, 0)
  | n, c :: cs =>
    let longer := n * 10 + (c.toNat - 48)
    if bound ≤ longer then (n, 0)
    else
      let (m, k) := appendDigits bound longer cs
      (m, k + 1)

/-- `x * 10 ^ exponent`, unless it is too large. A division by more than `10 ^ 308` is done in
steps. -/
def scaleFloat? : Nat → Float → Int → Option Float
  | 0, x, _ => some x
  | steps + 1, x, exponent =>
    if exponent.natAbs ≤ 308 then
      let power := Float.ofScientific 1 false exponent.natAbs
      if 0 ≤ exponent then
        let y := x * power
        if y.isInf then none else some y
      else some (x / power)
    else if x == 0 then some x
    else if 0 ≤ exponent then none
    else scaleFloat? steps (x / 1e308) (exponent + 308)

/-- The float of a numeral, without its sign. -/
def Numeral.magnitude? (n : Numeral) : Option Float :=
  let (whole, usedWhole) := appendDigits (Nat.pow 2 64) 0 n.whole
  let (significand, usedFraction) := appendDigits (Nat.pow 2 64) whole n.fraction
  let (exponent, used) := appendDigits (Nat.pow 2 31) 0 n.exponent.2
  if used < n.exponent.2.length then
    if significand = 0 ∨ n.exponent.1 then some 0 else none
  else
    let shift : Int := (n.whole.length - usedWhole : Nat) - (usedFraction : Int)
    scaleFloat? 4 (Float.ofNat significand)
      (if n.exponent.1 then shift - exponent else shift + exponent)

/-- The number that a numeral denotes, unless it is too large for a float. -/
def Numeral.value? (n : Numeral) : Option Number :=
  let size := decimalValue n.whole
  if n.isWhole && size < Nat.pow 2 64 && !n.negative then some (.integer size)
  else if n.isWhole && 0 < size && size ≤ Nat.pow 2 63 && n.negative then some (.integer (-(size : Int)))
  else n.magnitude?.map fun x => .float (if n.negative then -x else x)

/-- At least one digit. -/
def digits (here : Cursor) : Reader (List Char × Cursor) :=
  match here.rest.takeWhile Char.isDigit with
  | [] => .error (if here.rest = [] then .endOfText else .syntaxError)
  | ds => .ok (ds, here.skipWhile Char.isDigit)

/-- The digits before the point: a single zero, or digits that do not start with one. -/
def wholeDigits (here : Cursor) : Reader (List Char × Cursor) := do
  let (ds, after) ← digits here
  if ds.length ≠ 1 && ds.head? = some '0' then .error .syntaxError else .ok (ds, after)

/-- A fraction, if there is one. -/
def fractionDigits (here : Cursor) : Reader (List Char × Cursor) :=
  if here.rest.head? = some '.' then digits here.next else .ok ([], here)

/-- An exponent, if there is one. -/
def exponentDigits (here : Cursor) : Reader ((Bool × List Char) × Cursor) :=
  if here.rest.head? = some 'e' ∨ here.rest.head? = some 'E' then do
    let after := here.next
    let signed := after.rest.head? = some '+' ∨ after.rest.head? = some '-'
    let (ds, last) ← digits (if signed then after.next else after)
    return ((after.rest.head? = some '-', ds), last)
  else .ok ((false, []), here)

/-- The numeral behind the sign. -/
def numeralBody (negative : Bool) (here : Cursor) : Reader (Numeral × Cursor) := do
  let (whole, afterWhole) ← wholeDigits here
  let (fraction, afterFraction) ← fractionDigits afterWhole
  let (exponent, last) ← exponentDigits afterFraction
  return (⟨negative, whole, fraction, exponent, last.rest.length = afterWhole.rest.length⟩, last)

/-- The numeral at the cursor, whose first character is a minus sign or a digit. -/
def numeral (here : Cursor) : Reader (Numeral × Cursor) :=
  if here.rest.head? = some '-' then numeralBody true here.next else numeralBody false here

def number (here : Cursor) : Reader (Number × Cursor) := do
  let (n, after) ← numeral here
  match n.value? with
  | some x => return (x, after)
  | none => .error .syntaxError

def Number.found : Number → Record.Found
  | integer i => .integer i
  | float x => .float x

end TunnelKeeper.Json
