import TunnelKeeper.Json.Text
import TunnelKeeper.Toml.Scan

/-!
Strings of a TOML text, in four forms: basic strings with escapes and literal strings without, both
on one line or, between triple quotes, on several.
-/

namespace TunnelKeeper.Toml

/-- The character that stands behind a backslash. -/
def unescape? (c : Char) : Option Char :=
  if c = 'b' then some '\x08'
  else if c = 't' then some '\t'
  else if c = 'n' then some '\n'
  else if c = 'f' then some '\x0c'
  else if c = 'r' then some '\r'
  else if c = '"' ∨ c = '\\' then some c
  else none

/-- The character of a number, unless it is half of a surrogate pair or too large. -/
def scalarValue? (n : Nat) : Option Char :=
  if n < 0xD800 ∨ 0xE000 ≤ n ∧ n < 0x110000 then some (Char.ofNat n) else none

/-- The characters of a basic string up to the closing quote. -/
def basicChars : Scan (List Char)
  | '"' :: rest => some ([], rest)
  | '\\' :: 'u' :: a :: b :: c :: d :: rest => do
    let x ← scalarValue? (← Json.hexFour? a b c d)
    let (cs, rest) ← basicChars rest
    return (x :: cs, rest)
  | '\\' :: 'U' :: a :: b :: c :: d :: e :: f :: g :: h :: rest => do
    let x ← scalarValue? ((← Json.hexFour? a b c d) * 0x10000 + (← Json.hexFour? e f g h))
    let (cs, rest) ← basicChars rest
    return (x :: cs, rest)
  | '\\' :: c :: rest => do
    let x ← unescape? c
    let (cs, rest) ← basicChars rest
    return (x :: cs, rest)
  | c :: rest =>
    if isPlain c && c ≠ '\\' then do
      let (cs, rest) ← basicChars rest
      return (c :: cs, rest)
    else none
  | [] => none

/-- The characters of a literal string up to the closing quote. -/
def literalChars : Scan (List Char)
  | '\'' :: rest => some ([], rest)
  | c :: rest =>
    if isPlain c then do
      let (cs, rest) ← literalChars rest
      return (c :: cs, rest)
    else none
  | [] => none

/-- Where reading stands behind a backslash that joins lines. -/
inductive Join where
  /-- Behind no such backslash. -/
  | none
  /-- On the line of the backslash, where only blanks may follow. -/
  | line
  /-- On later lines, before the next character of the string. -/
  | gap
  deriving DecidableEq

/-- The characters of a basic string of several lines. Up to two quotes may stand before the
closing ones. A backslash at the end of a line drops all blanks and ends of lines behind it. -/
def multiBasicChars : Join → Scan (List Char)
  | .line, '\r' :: '\n' :: rest => multiBasicChars .gap rest
  | .line, c :: rest =>
    if c = '\n' then multiBasicChars .gap rest
    else if isSpace c then multiBasicChars .line rest
    else Option.none
  | .gap, ' ' :: rest => multiBasicChars .gap rest
  | .gap, '\t' :: rest => multiBasicChars .gap rest
  | .gap, '\n' :: rest => multiBasicChars .gap rest
  | .gap, '\r' :: '\n' :: rest => multiBasicChars .gap rest
  | _, '"' :: '"' :: '"' :: '"' :: '"' :: rest => some (['"', '"'], rest)
  | _, '"' :: '"' :: '"' :: '"' :: rest => some (['"'], rest)
  | _, '"' :: '"' :: '"' :: rest => some ([], rest)
  | _, '\\' :: 'u' :: a :: b :: c :: d :: rest => do
    let x ← scalarValue? (← Json.hexFour? a b c d)
    let (cs, rest) ← multiBasicChars .none rest
    return (x :: cs, rest)
  | _, '\\' :: 'U' :: a :: b :: c :: d :: e :: f :: g :: h :: rest => do
    let x ← scalarValue? ((← Json.hexFour? a b c d) * 0x10000 + (← Json.hexFour? e f g h))
    let (cs, rest) ← multiBasicChars .none rest
    return (x :: cs, rest)
  | _, '\\' :: '\r' :: '\n' :: rest => multiBasicChars .gap rest
  | _, '\\' :: c :: rest =>
    if c = '\n' then multiBasicChars .gap rest
    else if isSpace c then multiBasicChars .line rest
    else do
      let x ← unescape? c
      let (cs, rest) ← multiBasicChars .none rest
      return (x :: cs, rest)
  | _, '\r' :: '\n' :: rest => do
    let (cs, rest) ← multiBasicChars .none rest
    return ('\n' :: cs, rest)
  | _, c :: rest =>
    if (isPlain c && c ≠ '\\') || c = '\n' then do
      let (cs, rest) ← multiBasicChars .none rest
      return (c :: cs, rest)
    else Option.none
  | _, [] => Option.none

/-- The characters of a literal string of several lines. -/
def multiLiteralChars : Scan (List Char)
  | '\'' :: '\'' :: '\'' :: '\'' :: '\'' :: rest => some (['\'', '\''], rest)
  | '\'' :: '\'' :: '\'' :: '\'' :: rest => some (['\''], rest)
  | '\'' :: '\'' :: '\'' :: rest => some ([], rest)
  | '\r' :: '\n' :: rest => do
    let (cs, rest) ← multiLiteralChars rest
    return ('\n' :: cs, rest)
  | c :: rest =>
    if isPlain c || c = '\n' then do
      let (cs, rest) ← multiLiteralChars rest
      return (c :: cs, rest)
    else none
  | [] => none

/-- A line end directly behind the opening triple quotes does not count. -/
def dropNewline (cs : List Char) : List Char := (newline? cs).getD cs

/-- A string in any of the four forms. -/
def quote : Scan (List Char)
  | '"' :: '"' :: '"' :: rest => multiBasicChars .none (dropNewline rest)
  | '"' :: rest => basicChars rest
  | '\'' :: '\'' :: '\'' :: rest => multiLiteralChars (dropNewline rest)
  | '\'' :: rest => literalChars rest
  | _ => none

end TunnelKeeper.Toml
