/-!
Elements of the distinguished encoding: a tag, the length of the content, and the content.
-/

namespace TunnelKeeper.Tls

abbrev Bytes := List UInt8

/-- A natural number, the most significant byte first. -/
def natOfBytes (bytes : Bytes) : Nat := bytes.foldl (fun n b => n * 256 + b.toNat) 0

/-- The `width` lowest bytes of a number, the most significant first. -/
def bytesOfNat : Nat → Nat → Bytes
  | 0, _ => []
  | width + 1, n => bytesOfNat width (n / 256) ++ [(n % 256).toUInt8]

namespace Der

def integer : UInt8 := 0x02
def bitString : UInt8 := 0x03
def octetString : UInt8 := 0x04
def identifier : UInt8 := 0x06
def sequence : UInt8 := 0x30

/-- The element of the context with a number, which holds other elements. -/
def context (n : UInt8) : UInt8 := 0xa0 + n

/-- A length in its shortest form, of at most two bytes. -/
def length? : Bytes → Option (Nat × Bytes)
  | 0x81 :: a :: rest => if 0x80 ≤ a then some (a.toNat, rest) else none
  | 0x82 :: a :: b :: rest => if a = 0 then none else some (a.toNat * 256 + b.toNat, rest)
  | a :: rest => if a < 0x80 then some (a.toNat, rest) else none
  | [] => none

/-- The content of an element with the given tag, and what follows it. -/
def take? (tag : UInt8) : Bytes → Option (Bytes × Bytes)
  | t :: rest => do
    let (length, rest) ← length? rest
    if t = tag ∧ length ≤ rest.length then return (rest.take length, rest.drop length) else none
  | [] => none

/-- The content of an element that is all there is. -/
def only? (tag : UInt8) (bytes : Bytes) : Option Bytes := do
  let (content, rest) ← take? tag bytes
  if rest = [] then return content else none

/-- The element may be missing. -/
def optional? (tag : UInt8) (bytes : Bytes) : Option (Option Bytes × Bytes) :=
  if bytes.head? = some tag then do
    let (content, rest) ← take? tag bytes
    return (some content, rest)
  else some (none, bytes)

/-- A number that is not negative, in its shortest form. -/
def natural? (bytes : Bytes) : Option (Nat × Bytes) := do
  let (content, rest) ← take? integer bytes
  match content with
  | [] => none
  | [a] => if a < 0x80 then return (a.toNat, rest) else none
  | a :: b :: _ =>
    if 0x80 ≤ a ∨ a = 0 ∧ b < 0x80 then none else return (natOfBytes content, rest)

/-- The bytes of a bit string that holds whole bytes. -/
def wholeBits? : Bytes → Option Bytes
  | 0 :: bytes => some bytes
  | _ => none

/-- The shortest form of a length. -/
def lengthBytes (n : Nat) : Bytes :=
  if n < 0x80 then [n.toUInt8]
  else if n < 0x100 then [0x81, n.toUInt8]
  else 0x82 :: bytesOfNat 2 n

/-- An element. -/
def element (tag : UInt8) (content : Bytes) : Bytes := tag :: lengthBytes content.length ++ content

/-- The number of bytes that a number needs. -/
def width (n : Nat) : Nat := n.log2 / 8 + 1

/-- A positive number. -/
def naturalElement (n : Nat) : Bytes :=
  let bytes := bytesOfNat (width n) n
  element integer (if bytes.headD 0 < 0x80 then bytes else 0 :: bytes)

end Der

end TunnelKeeper.Tls
