/-!
The smallest parts of a TOML text: blanks, ends of lines, comments and runs of digits.

A scan takes its part from the front of a text and leaves the rest. Whatever does not fit makes the
whole text no TOML, so a failed scan carries no reason.
-/

namespace TunnelKeeper.Toml

abbrev Scan (α : Type) := List Char → Option (α × List Char)

def isSpace (c : Char) : Bool := c = ' ' || c = '\t'

def skipSpaces (cs : List Char) : List Char := cs.dropWhile isSpace

/-- Characters that may stand in a comment or a literal string. -/
def isPlain (c : Char) : Bool := c = '\t' || (0x20 ≤ c.toNat && c.toNat ≠ 0x7f)

/-- Past the end of a line, if there is one. -/
def newline? : List Char → Option (List Char)
  | '\n' :: rest => some rest
  | '\r' :: '\n' :: rest => some rest
  | _ => none

/-- Past a comment. -/
def skipComment : List Char → List Char
  | '#' :: rest => rest.dropWhile isPlain
  | cs => cs

/-- Past the end of a line or of the text. -/
def lineEnd? : List Char → Option (List Char)
  | [] => some []
  | cs => newline? cs

/-- Past what may follow an expression on its line: blanks and a comment. -/
def restOfLine? (cs : List Char) : Option (List Char) := lineEnd? (skipComment (skipSpaces cs))

/-- Past blanks, ends of lines and comments, as they may stand in an array. Every round passes at
least one character. -/
def skipGaps : Nat → List Char → List Char
  | 0, cs => cs
  | rounds + 1, cs =>
    match skipSpaces cs with
    | '#' :: rest =>
      match newline? (rest.dropWhile isPlain) with
      | some rest => skipGaps rounds rest
      | none => '#' :: rest
    | cs =>
      match newline? cs with
      | some rest => skipGaps rounds rest
      | none => cs

def gap (cs : List Char) : List Char := skipGaps cs.length cs

/-- The digits behind a digit: a single underscore may stand before each. -/
def moreDigits (isDigit : Char → Bool) : Scan (List Char)
  | '_' :: c :: rest =>
    if isDigit c then do
      let (ds, rest) ← moreDigits isDigit rest
      return (c :: ds, rest)
    else none
  | ['_'] => none
  | c :: rest =>
    if isDigit c then do
      let (ds, rest) ← moreDigits isDigit rest
      return (c :: ds, rest)
    else some ([], c :: rest)
  | [] => some ([], [])

/-- At least one digit. -/
def digitRun (isDigit : Char → Bool) : Scan (List Char)
  | c :: rest =>
    if isDigit c then do
      let (ds, rest) ← moreDigits isDigit rest
      return (c :: ds, rest)
    else none
  | [] => none

end TunnelKeeper.Toml
