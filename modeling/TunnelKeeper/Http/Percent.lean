import TunnelKeeper.Text.Hex

/-!
Percent encoding: a byte as a percent sign and two hexadecimal digits, for characters that a part
of a URL cannot hold.
-/

namespace TunnelKeeper.Http

def percentByte (b : UInt8) : List Char := '%' :: (Hex.encodeByte b).map Char.toUpper

/-- Control characters, characters beyond ASCII and those of `reserved` are encoded. -/
def percentEncode (reserved : List Char) (cs : List Char) : List Char :=
  cs.flatMap fun c =>
    if c.toNat < 0x20 ∨ 0x7f ≤ c.toNat ∨ c ∈ reserved then
      (String.utf8EncodeChar c).flatMap percentByte
    else [c]

/-- The bytes that an encoded text stands for. -/
def percentDecode : List Char → List UInt8
  | '%' :: a :: b :: rest =>
    match Hex.value? a, Hex.value? b with
    | some high, some low => (high * 16 + low).toUInt8 :: percentDecode rest
    | _, _ => 37 :: percentDecode (a :: b :: rest)
  | c :: rest => String.utf8EncodeChar c ++ percentDecode rest
  | [] => []

/-- What must be encoded in the parts of a URL. -/
def fragmentReserved : List Char := [' ', '"', '<', '>', '\x60']
def pathReserved : List Char := fragmentReserved ++ ['#', '?', '\x7b', '\x7d']
def queryReserved : List Char := [' ', '"', '#', '<', '>']

end TunnelKeeper.Http
