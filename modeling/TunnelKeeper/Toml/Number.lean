import TunnelKeeper.Time.Calendar
import TunnelKeeper.Toml.Scan
import TunnelKeeper.Toml.Value

/-!
Numbers, dates and times of a TOML text. Whole numbers must fit 64 bits; of dates and times it only
matters that they exist.
-/

namespace TunnelKeeper.Toml

/-! ### Numbers -/

def isHexDigit (c : Char) : Bool :=
  c.isDigit || ('a' ≤ c && c ≤ 'f') || ('A' ≤ c && c ≤ 'F')

/-- The value of a digit of any base up to sixteen. -/
def digitValue (c : Char) : Nat :=
  if c.isDigit then c.toNat - 48 else if 'a' ≤ c then c.toNat - 87 else c.toNat - 55

def digitsValue (base : Nat) (ds : List Char) : Nat :=
  ds.foldl (fun n c => n * base + digitValue c) 0

/-- The whole number, if 64 bits hold it. -/
def integer? (negative : Bool) (size : Nat) : Option Value :=
  if negative then if size ≤ Nat.pow 2 63 then some (.integer (-(size : Int))) else none
  else if size < Nat.pow 2 63 then some (.integer size) else none

/-- A number with a sign or without: what it is, and the text behind the sign. -/
def sign : List Char → Bool × List Char
  | '+' :: rest => (false, rest)
  | '-' :: rest => (true, rest)
  | cs => (false, cs)

/-- The digits before a decimal point: a single zero, or digits that do not start with one. -/
def wholeDigits : Scan (List Char)
  | '0' :: rest => some (['0'], rest)
  | cs => digitRun Char.isDigit cs

/-- An exponent, if there is one. -/
def exponent? : Scan (Option (Bool × List Char))
  | [] => some (none, [])
  | c :: rest =>
    if c = 'e' ∨ c = 'E' then do
      let (negative, rest) := sign rest
      let (ds, rest) ← digitRun Char.isDigit rest
      return (some (negative, ds), rest)
    else some (none, c :: rest)

/-- The nearest float of `significand * 10 ^ exponent`; beyond the range of floats it is infinite
or zero. -/
def nearestFloat (significand : Nat) (exponent : Int) : Float :=
  let size := exponent + (Nat.toDigits 10 significand).length
  if significand = 0 ∨ size < -400 then 0
  else if 400 < size then 1 / 0
  else Float.ofScientific significand (exponent < 0) exponent.natAbs

/-- The float of a numeral. It may be too small to be told from zero, but not too large, unless it
is negative. -/
def float? (negative : Bool) (whole fraction : List Char) (exponent : Bool × List Char) :
    Option Value :=
  let size : Int := digitsValue 10 exponent.2
  let shift := (if exponent.1 then -size else size) - fraction.length
  let x := nearestFloat (digitsValue 10 (whole ++ fraction)) shift
  if negative then some (.float (-x)) else if x.isInf then none else some (.float x)

/-- A number in decimal notation, behind its sign. -/
def decimal (negative : Bool) (cs : List Char) : Option (Value × List Char) := do
  let (whole, rest) ← wholeDigits cs
  match rest with
  | '.' :: rest =>
    let (fraction, rest) ← digitRun Char.isDigit rest
    let (exponent, rest) ← exponent? rest
    return (← float? negative whole fraction (exponent.getD (false, [])), rest)
  | rest =>
    match ← exponent? rest with
    | (some exponent, rest) => return (← float? negative whole [] exponent, rest)
    | (none, rest) => return (← integer? negative (digitsValue 10 whole), rest)

/-- A number in another base, behind its mark. -/
def based (base : Nat) (isDigit : Char → Bool) (cs : List Char) : Option (Value × List Char) := do
  let (ds, rest) ← digitRun isDigit cs
  return (← integer? false (digitsValue base ds), rest)

/-- Infinity and what is no number. -/
def special (negative : Bool) : Scan Value
  | 'i' :: 'n' :: 'f' :: rest => some (.float (if negative then -1 / 0 else 1 / 0), rest)
  | 'n' :: 'a' :: 'n' :: rest => some (.float (0 / 0), rest)
  | _ => none

def number : Scan Value
  | '0' :: 'x' :: rest => based 16 isHexDigit rest
  | '0' :: 'o' :: rest => based 8 (fun c => '0' ≤ c && c ≤ '7') rest
  | '0' :: 'b' :: rest => based 2 (fun c => c = '0' || c = '1') rest
  | cs =>
    let (negative, rest) := sign cs
    (special negative rest).or (decimal negative rest)

/-! ### Dates and times -/

/-- A number of two digits, at most `most`. -/
def twoDigits (least most : Nat) : Scan Nat
  | a :: b :: rest =>
    let n := digitsValue 10 [a, b]
    if a.isDigit && b.isDigit && least ≤ n && n ≤ most then some (n, rest) else none
  | _ => none

/-- The character `c`. -/
def exactly (c : Char) : List Char → Option (List Char)
  | d :: rest => if d = c then some rest else none
  | [] => none

/-- Past a date that the calendar has. -/
def skipDate (cs : List Char) : Option (List Char) := do
  let (century, rest) ← twoDigits 0 99 cs
  let (year, rest) ← twoDigits 0 99 rest
  let (month, rest) ← twoDigits 1 12 (← exactly '-' rest)
  let (day, rest) ← twoDigits 1 31 (← exactly '-' rest)
  if day ≤ Date.daysInMonth ((century * 100 + year : Nat) : Int) month then some rest else none

/-- Past the fraction of a second, if there is one. -/
def skipFraction : List Char → List Char
  | '.' :: c :: rest => if c.isDigit then rest.dropWhile Char.isDigit else '.' :: c :: rest
  | cs => cs

/-- Past a time of day. -/
def skipTime (cs : List Char) : Option (List Char) := do
  let (_, rest) ← twoDigits 0 23 cs
  let (_, rest) ← twoDigits 0 59 (← exactly ':' rest)
  let (_, rest) ← twoDigits 0 60 (← exactly ':' rest)
  return skipFraction rest

/-- Past an offset from UTC. -/
def skipOffset : List Char → Option (List Char)
  | [] => none
  | c :: rest =>
    if c = 'Z' ∨ c = 'z' then some rest
    else if c = '+' ∨ c = '-' then do
      let (_, rest) ← twoDigits 0 23 rest
      let (_, rest) ← twoDigits 0 59 (← exactly ':' rest)
      return rest
    else none

/-- Past a time behind a date, and its offset. -/
def skipTimeOfDate : List Char → Option (List Char)
  | [] => none
  | c :: rest =>
    if c = 'T' ∨ c = 't' ∨ c = ' ' then do
      let rest ← skipTime rest
      return (skipOffset rest).getD rest
    else none

/-- A date, a time or both. -/
def moment (cs : List Char) : Option (Value × List Char) :=
  match skipDate cs with
  | some rest => some (.moment, (skipTimeOfDate rest).getD rest)
  | none => (.moment, ·) <$> skipTime cs

end TunnelKeeper.Toml
