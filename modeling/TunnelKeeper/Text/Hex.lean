/-!
Bytes in hexadecimal: two digits a byte, in lower case where they are written.
-/

namespace TunnelKeeper.Hex

/-- The digit of `n < 16`. -/
def digit (n : Nat) : Char := Nat.digitChar n

/-- The value of a digit of either case. -/
def value? (c : Char) : Option Nat :=
  if '0' ≤ c ∧ c ≤ '9' then some (c.toNat - 48)
  else if 'a' ≤ c ∧ c ≤ 'f' then some (c.toNat - 87)
  else if 'A' ≤ c ∧ c ≤ 'F' then some (c.toNat - 55)
  else none

def encodeByte (b : UInt8) : List Char := [digit (b.toNat / 16), digit (b.toNat % 16)]

/-- The digits of a string of bytes. -/
def encode (bytes : List UInt8) : String := String.ofList (bytes.flatMap encodeByte)

def decodeChars : List Char → Option (List UInt8)
  | [] => some []
  | [_] => none
  | a :: b :: rest => do
    let high ← value? a
    let low ← value? b
    return (high * 16 + low).toUInt8 :: (← decodeChars rest)

/-- The bytes that a text of hexadecimal digits stands for. -/
def decode? (s : String) : Option (List UInt8) := decodeChars s.toList

end TunnelKeeper.Hex
