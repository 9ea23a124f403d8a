import TunnelKeeper.Time.Instant
import TunnelKeeper.Text.Blank

/-!
Timestamps in the notation of RFC 3339.

`Instant.text` writes UTC with `Z`, a fraction of three, six or nine digits if there is one, and a
sign before years of more or fewer than four digits. `Instant.parse` is lenient: it takes any
offset, numbers without leading zeros, blanks between the parts and a blank or `t` for the `T`.
-/

namespace TunnelKeeper

/-- Why a text is no timestamp. -/
inductive TimestampFault where
  | tooShort
  | invalid
  | tooLong
  | outOfRange
  | impossible
  deriving DecidableEq, Repr

def TimestampFault.message : TimestampFault → String
  | tooShort => "premature end of input"
  | invalid => "input contains invalid characters"
  | tooLong => "trailing input"
  | outOfRange => "input is out of range"
  | impossible => "no possible date and time matching input"

namespace Rfc3339

/-! ### Writing -/

/-- `n` in decimal, with zeros in front up to `width` digits. -/
def padded (width n : Nat) : List Char :=
  let digits := Nat.toDigits 10 n
  List.replicate (width - digits.length) '0' ++ digits

/-- Years of four digits stand alone, all others carry a sign. -/
def yearText (year : Int) : List Char :=
  if 0 ≤ year ∧ year ≤ 9999 then padded 4 year.toNat
  else (if year < 0 then '-' else '+') :: padded 4 year.natAbs

/-- The fraction of a second, in the shortest of three, six and nine digits that is exact. -/
def fractionText (nanos : Nat) : List Char :=
  if nanos = 0 then []
  else if nanos % 1000000 = 0 then '.' :: padded 3 (nanos / 1000000)
  else if nanos % 1000 = 0 then '.' :: padded 6 (nanos / 1000)
  else '.' :: padded 9 nanos

def chars (t : Instant) : List Char :=
  let date := Date.ofDays (t.secs / 86400)
  let second := t.secondOfDay.toNat
  let leap := t.nanos / 1000000000
  yearText date.year ++ '-' :: padded 2 date.month ++ '-' :: padded 2 date.day ++
    'T' :: padded 2 (second / 3600) ++ ':' :: padded 2 (second / 60 % 60) ++
    ':' :: padded 2 (second % 60 + leap) ++ fractionText (t.nanos % 1000000000) ++ ['Z']

/-! ### Reading -/

/-- What reading a part of a timestamp gives: most often its value and the text behind it. -/
abbrev Scan := Except TimestampFault

def digitValue (c : Char) : Nat := c.toNat - 48

def digitsValue (digits : List Char) : Nat := digits.foldl (fun n c => n * 10 + digitValue c) 0

/-- At least one and at most `width` digits. A number beyond 64 bits is out of range. -/
def number (width : Nat) (cs : List Char) : Scan (Nat × List Char) :=
  let digits := (cs.take width).takeWhile Char.isDigit
  if cs = [] then .error .tooShort
  else if digits = [] then .error .invalid
  else if Nat.pow 2 63 ≤ digitsValue digits then .error .outOfRange
  else .ok (digitsValue digits, cs.drop digits.length)

/-- A year: four digits at most, or a sign and any number of digits. -/
def year (cs : List Char) : Scan (Int × List Char) := do
  let (n, rest) ← match skipBlanks cs with
    | '-' :: cs => do let (n, rest) ← number cs.length cs; pure (-(n : Int), rest)
    | '+' :: cs => do let (n, rest) ← number cs.length cs; pure ((n : Int), rest)
    | cs => do let (n, rest) ← number 4 cs; pure ((n : Int), rest)
  if -Int.pow 2 31 ≤ n ∧ n < Int.pow 2 31 then .ok (n, rest) else .error .outOfRange

/-- A number of two digits from `least` to `most`. -/
def field (least most : Nat) (cs : List Char) : Scan (Nat × List Char) := do
  let (n, rest) ← number 2 (skipBlanks cs)
  if least ≤ n ∧ n ≤ most then .ok (n, rest) else .error .outOfRange

/-- The separator `c`, after blanks. -/
def separator (c : Char) (cs : List Char) : Scan (List Char) :=
  match skipBlanks cs with
  | [] => .error .tooShort
  | d :: rest => if d = c then .ok rest else .error .invalid

/-- The letter between date and time. -/
def timeMark : List Char → Scan (List Char)
  | [] => .error .tooShort
  | c :: rest => if c = 't' ∨ c = 'T' ∨ c = ' ' then .ok rest else .error .invalid

/-- An optional fraction in nanoseconds. Digits after the ninth are dropped. -/
def fraction : List Char → Scan (Nat × List Char)
  | '.' :: cs => do
    let (n, rest) ← number 9 cs
    .ok (n * Nat.pow 10 (9 - (cs.length - rest.length)), rest.dropWhile Char.isDigit)
  | cs => .ok (0, cs)

/-- Two digits at the front. A text of less than two bytes is too short. -/
def twoDigits (cs : List Char) : Scan (Nat × List Char) :=
  match cs with
  | a :: b :: rest =>
    if a.isDigit ∧ b.isDigit then .ok (digitValue a * 10 + digitValue b, rest) else .error .invalid
  | _ => if hasBytes 2 cs then .error .invalid else .error .tooShort

/-- An offset after its sign: hours, any colons and blanks, minutes. -/
def offsetDigits (cs : List Char) : Scan (Nat × List Char) := do
  let (hours, rest) ← twoDigits cs
  let (minutes, rest) ← twoDigits (rest.dropWhile fun c => c = ':' || isBlank c)
  if minutes < 60 then .ok (hours * 3600 + minutes * 60, rest) else .error .outOfRange

/-- The offset from UTC in seconds: `Z`, `UTC` or hours and minutes after a sign. -/
def offset (cs : List Char) : Scan (Int × List Char) :=
  match cs with
  | [] => .error .tooShort
  | c :: rest =>
    if (cs.take 3).map Char.toUpper = ['U', 'T', 'C'] then .ok (0, cs.drop 3)
    else if c = 'Z' ∨ c = 'z' then .ok (0, rest)
    else if c = '+' then (offsetDigits rest).map fun (n, rest) => ((n : Int), rest)
    else if c = '-' ∨ c = '−' then (offsetDigits rest).map fun (n, rest) => (-(n : Int), rest)
    else .error .invalid

/-- The instant of a date and a time of day under an offset. Second 60 is the leap second after
second 59. -/
def assemble (date : Date) (hour minute second nanos : Nat) (offset : Int) :
    Scan Instant :=
  if ¬ date.Valid ∨ 86400 ≤ offset.natAbs then .error .outOfRange
  else
    let leap := second / 60
    let timeOfDay : Nat := hour * 3600 + minute * 60 + (second - leap)
    match Instant.checked ⟨date.toDays * 86400 + timeOfDay - offset, nanos + leap * 1000000000⟩ with
    | some t => .ok t
    | none => .error .impossible

def parse (cs : List Char) : Scan Instant := do
  let (year, rest) ← year cs
  let (month, rest) ← field 1 12 (← separator '-' rest)
  let (day, rest) ← field 1 31 (← separator '-' rest)
  let (hour, rest) ← field 0 23 (← timeMark rest)
  let (minute, rest) ← field 0 59 (← separator ':' rest)
  let (second, rest) ← field 0 60 (← separator ':' rest)
  let (nanos, rest) ← fraction rest
  let (offset, rest) ← offset (skipBlanks rest)
  if skipBlanks rest = [] then assemble ⟨year, month, day⟩ hour minute second nanos offset
  else .error .tooLong

end Rfc3339

/-- The instant in UTC, in the notation of RFC 3339. -/
def Instant.text (t : Instant) : String := String.ofList (Rfc3339.chars t)

/-- The instant that a timestamp names. -/
def Instant.parse (s : String) : Except TimestampFault Instant := Rfc3339.parse s.toList

end TunnelKeeper
