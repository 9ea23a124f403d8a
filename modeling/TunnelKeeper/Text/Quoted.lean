import TunnelKeeper.Text.Printable

/-!
Texts in double quotes for a human reader: quotes, backslashes and whatever cannot be seen are
escaped, everything else stands for itself.
-/

namespace TunnelKeeper

namespace Quoted

/-- A character by its number in hexadecimal. -/
def codePoint (c : Char) : List Char :=
  '\\' :: 'u' :: '\x7b' :: Nat.toDigits 16 c.toNat ++ ['\x7d']

def escape (c : Char) : List Char :=
  if c = '\x00' then ['\\', '0']
  else if c = '\t' then ['\\', 't']
  else if c = '\r' then ['\\', 'r']
  else if c = '\n' then ['\\', 'n']
  else if c = '\\' ∨ c = '"' then ['\\', c]
  else if isPrintable c then [c]
  else codePoint c

end Quoted

/-- The text in double quotes. -/
def quoted (s : String) : String := String.ofList ('"' :: s.toList.flatMap Quoted.escape ++ ['"'])

end TunnelKeeper
