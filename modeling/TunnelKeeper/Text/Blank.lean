/-!
White space: the characters that count as blank wherever a text is trimmed.
-/

namespace TunnelKeeper

/-- The character is white space. -/
def isBlank (c : Char) : Bool :=
  let n := c.toNat
  (9 ≤ n && n ≤ 13) || n = 0x20 || n = 0x85 || n = 0xA0 || n = 0x1680 ||
    (0x2000 ≤ n && n ≤ 0x200A) || n = 0x2028 || n = 0x2029 || n = 0x202F || n = 0x205F ||
    n = 0x3000

/-- `cs` from its first character that is not blank. -/
def skipBlanks (cs : List Char) : List Char := cs.dropWhile isBlank

/-- `cs` without the blanks at its end. -/
def dropTrailingBlanks (cs : List Char) : List Char := (cs.reverse.dropWhile isBlank).reverse

/-- The text has at least `n` bytes. -/
def hasBytes (n : Nat) (cs : List Char) : Bool := n ≤ cs.foldr (fun c size => c.utf8Size + size) 0

end TunnelKeeper
