import TunnelKeeper.Json.Cursor

/-!
Strings of a JSON text: the characters between double quotes, with escapes.

Reading decodes the escapes. Skipping only looks for the end of the string, and takes any four
hexadecimal digits for a character, also half of a surrogate pair.
-/

namespace TunnelKeeper.Json

/-- The value of a hexadecimal digit. -/
def hexValue? (c : Char) : Option Nat :=
  if c.isDigit then some (c.toNat - 48)
  else if 'a' ≤ c ∧ c ≤ 'f' then some (c.toNat - 87)
  else if 'A' ≤ c ∧ c ≤ 'F' then some (c.toNat - 55)
  else none

/-- The value of four hexadecimal digits. -/
def hexFour? (a b c d : Char) : Option Nat := do
  return (((← hexValue? a) * 16 + (← hexValue? b)) * 16 + (← hexValue? c)) * 16 + (← hexValue? d)

/-- The character that stands behind a backslash. -/
def unescape? (c : Char) : Option Char :=
  if c = '"' ∨ c = '\\' ∨ c = '/' then some c
  else if c = 'b' then some '\x08'
  else if c = 'f' then some '\x0c'
  else if c = 'n' then some '\n'
  else if c = 'r' then some '\r'
  else if c = 't' then some '\t'
  else none

def isLeadSurrogate (n : Nat) : Bool := 0xD800 ≤ n && n ≤ 0xDBFF
def isTrailSurrogate (n : Nat) : Bool := 0xDC00 ≤ n && n ≤ 0xDFFF

/-- What `n`, written as an escape, means behind an unfinished surrogate pair or none: a
character, the first half of a pair, or a fault. -/
def unit (lead : Option Nat) (n : Nat) : Reader (Option Nat × List Char) :=
  match lead with
  | none =>
    if isTrailSurrogate n then .error .syntaxError
    else if isLeadSurrogate n then .ok (some n, [])
    else .ok (none, [Char.ofNat n])
  | some m =>
    if isTrailSurrogate n then
      .ok (none, [Char.ofNat ((m - 0xD800) * 0x400 + (n - 0xDC00) + 0x10000)])
    else .error .syntaxError

/-- The cursor behind `\uXXXX`. -/
def Cursor.pastUnit (here : Cursor) (rest : List Char) : Cursor :=
  ⟨rest, here.line, here.column + 6⟩

/-- The characters up to the closing quote, put before `done` in reverse. `lead` is the first half
of a surrogate pair whose second half must follow. -/
def readChars : List Char → Option Nat → Cursor → List Char → Reader (List Char × Cursor)
  | '\\' :: 'u' :: a :: b :: c :: d :: rest, lead, here, done =>
    match hexFour? a b c d with
    | none => .error .syntaxError
    | some n =>
      match unit lead n with
      | .error f => .error f
      | .ok (lead, cs) => readChars rest lead (here.pastUnit rest) (cs ++ done)
  | '\\' :: 'u' :: few, _, _, _ =>
    .error (if hasBytes 4 few then .syntaxError else .endOfText)
  | '\\' :: e :: rest, none, here, done =>
    match unescape? e with
    | none => .error .syntaxError
    | some c => readChars rest none ((here.past '\\' (e :: rest)).past e rest) (c :: done)
  | ['\\'], _, _, _ => .error .endOfText
  | '"' :: rest, none, here, done => .ok (done.reverse, here.past '"' rest)
  | c :: rest, none, here, done =>
    if c.toNat < 0x20 then .error .syntaxError
    else readChars rest none (here.past c rest) (c :: done)
  | [], _, _, _ => .error .endOfText
  | _ :: _, some _, _, _ => .error .syntaxError

/-- Past the closing quote. -/
def skipChars : List Char → Cursor → Reader Cursor
  | '\\' :: 'u' :: a :: b :: c :: d :: rest, here =>
    if (hexFour? a b c d).isSome then skipChars rest (here.pastUnit rest) else .error .syntaxError
  | '\\' :: 'u' :: few, _ => .error (if hasBytes 4 few then .syntaxError else .endOfText)
  | '\\' :: e :: rest, here =>
    if (unescape? e).isSome then skipChars rest ((here.past '\\' (e :: rest)).past e rest)
    else .error .syntaxError
  | ['\\'], _ => .error .endOfText
  | '"' :: rest, here => .ok (here.past '"' rest)
  | c :: rest, here =>
    if c.toNat < 0x20 then .error .syntaxError else skipChars rest (here.past c rest)
  | [], _ => .error .endOfText

/-- The string whose opening quote is behind the cursor. -/
def textBody (here : Cursor) : Reader (String × Cursor) := do
  let (cs, here) ← readChars here.rest none here []
  return (String.ofList cs, here)

/-! ### Writing -/

/-- Control characters are escaped, by a letter where there is one; so are quotes and
backslashes. Everything else stands for itself. -/
def escape (c : Char) : List Char :=
  if c = '"' ∨ c = '\\' then ['\\', c]
  else if c = '\x08' then ['\\', 'b']
  else if c = '\x0c' then ['\\', 'f']
  else if c = '\n' then ['\\', 'n']
  else if c = '\r' then ['\\', 'r']
  else if c = '\t' then ['\\', 't']
  else if c.toNat < 0x20 then
    ['\\', 'u', '0', '0', Nat.digitChar (c.toNat / 16), Nat.digitChar (c.toNat % 16)]
  else [c]

/-- The string between double quotes. -/
def text (s : String) : String := String.ofList ('"' :: s.toList.flatMap escape ++ ['"'])

end TunnelKeeper.Json
