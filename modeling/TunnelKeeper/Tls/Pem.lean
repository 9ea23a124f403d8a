import TunnelKeeper.Tls.Der

/-!
Sections of a PEM file: bytes in base 64 between a line that begins a section and one that ends it.
What stands between sections does not matter, nor do sections with labels that nobody knows.
-/

namespace TunnelKeeper.Tls

/-- The sections that are known by their labels. -/
inductive SectionKind where
  | certificate
  | publicKey
  | rsaKey
  | privateKey
  | ecKey
  | crl
  | request
  | echConfig
  deriving DecidableEq, Repr

def SectionKind.labels : List (String × SectionKind) :=
  [("CERTIFICATE", .certificate), ("PUBLIC KEY", .publicKey), ("RSA PRIVATE KEY", .rsaKey),
    ("PRIVATE KEY", .privateKey), ("EC PRIVATE KEY", .ecKey), ("X509 CRL", .crl),
    ("CERTIFICATE REQUEST", .request), ("ECHCONFIG", .echConfig)]

/-- Why the content of a section is not base 64. -/
inductive Base64Fault where
  | invalidCharacter (byte : UInt8)
  | prematurePadding
  | invalidTrailingPadding
  deriving DecidableEq, Repr

inductive PemFault where
  | noFile
  | noItems
  | illegalStart (line : Bytes)
  | missingEnd (label : Bytes)
  | base64 (fault : Base64Fault)
  deriving DecidableEq, Repr

/-- Bytes as numbers in brackets. -/
def byteList (bytes : Bytes) : String := "[" ++ ", ".intercalate (bytes.map toString) ++ "]"

def Base64Fault.message : Base64Fault → String
  | invalidCharacter byte => "InvalidCharacter(" ++ toString byte ++ ")"
  | prematurePadding => "PrematurePadding"
  | invalidTrailingPadding => "InvalidTrailingPadding"

def PemFault.message : PemFault → String
  | noFile => "I/O error: No such file or directory (os error 2)"
  | noItems => "no items found"
  | illegalStart line => "illegal section start: " ++ byteList line
  | missingEnd label => "missing section end marker: " ++ byteList label
  | base64 fault => "base64 decode error: " ++ fault.message

namespace Pem

/-! ### Content -/

/-- The value of a character in base 64. -/
def sextet? (c : Char) : Option Nat :=
  if 'A' ≤ c ∧ c ≤ 'Z' then some (c.toNat - 65)
  else if 'a' ≤ c ∧ c ≤ 'z' then some (c.toNat - 71)
  else if '0' ≤ c ∧ c ≤ '9' then some (c.toNat + 4)
  else if c = '+' then some 62
  else if c = '/' then some 63
  else none

/-- The characters of a section, without white space: values, or `none` for padding. -/
def symbols : Bytes → Except Base64Fault (List (Option Nat))
  | [] => .ok []
  | b :: rest =>
    if b = 0x20 ∨ 9 ≤ b ∧ b ≤ 13 then symbols rest
    else if b = 0x3d then (none :: ·) <$> symbols rest
    else
      match sextet? (Char.ofNat b.toNat) with
      | some n => if b < 0x80 then (some n :: ·) <$> symbols rest else .error (.invalidCharacter b)
      | none => .error (.invalidCharacter b)

/-- The bytes of four characters: padding may stand at the end. -/
def quartet : Option Nat → Option Nat → Option Nat → Option Nat → Option Bytes
  | some a, some b, some c, some d =>
    some (bytesOfNat 3 (a * 262144 + b * 4096 + c * 64 + d))
  | some a, some b, some c, none => some ((bytesOfNat 3 (a * 262144 + b * 4096 + c * 64)).take 2)
  | some a, some b, none, none => some ((bytesOfNat 3 (a * 262144 + b * 4096)).take 1)
  | _, _, _, _ => none

/-- The bytes of the last group, of none, four or eight characters. -/
def lastGroup : List (Option Nat) → Option Bytes
  | [] => some []
  | [a, b, c, d] => quartet a b c d
  | [some a, some b, some c, some d, e, f, g, h] => do
    return (← quartet a b c d) ++ (← quartet e f g h)
  | _ => none

/-- The bytes of groups of eight characters. Only the last group may be padded. -/
def groups : List (Option Nat) → Except Base64Fault Bytes
  | a :: b :: c :: d :: e :: f :: g :: h :: i :: rest =>
    match a, b, c, d, e, f, g, h with
    | some a, some b, some c, some d, some e, some f, some g, some h => do
      let more ← groups (i :: rest)
      return bytesOfNat 3 (a * 262144 + b * 4096 + c * 64 + d) ++
        bytesOfNat 3 (e * 262144 + f * 4096 + g * 64 + h) ++ more
    | _, _, _, _, _, _, _, _ => .error .prematurePadding
  | group =>
    match lastGroup group with
    | some bytes => .ok bytes
    | none => .error .invalidTrailingPadding

def content (bytes : Bytes) : Except PemFault Bytes :=
  match symbols bytes >>= groups with
  | .ok bytes => .ok bytes
  | .error fault => .error (.base64 fault)

/-! ### Lines -/

/-- The lines of a file with the characters that end them. -/
def lines : Bytes → Bytes → List Bytes
  | [], [] => []
  | line, [] => [line.reverse]
  | line, b :: rest =>
    if b = 10 ∨ b = 13 then (b :: line).reverse :: lines [] rest else lines (b :: line) rest

def ascii (s : String) : Bytes := s.toUTF8.toList

def beginMark : Bytes := ascii "-----BEGIN "
def endMark : Bytes := ascii "-----END "

/-- The label of a line that begins a section: five dashes must follow it. -/
def label? (line : Bytes) : Option Bytes :=
  let dashes := line.reverse.takeWhile fun b => b = 0x2d ∨ b = 10 ∨ b = 13 ∨ b = 0x20
  if (dashes.filter (· = 0x2d)).length = 5 then
    let trimmed := line.take (line.length - dashes.length)
    let inner := dashes.reverse.takeWhile (· ≠ 0x2d)
    some ((trimmed ++ inner).drop beginMark.length)
  else none

def isEnd (label line : Bytes) : Bool := (endMark ++ label ++ ascii "-----").isPrefixOf line

/-- The section that is open: its label, and the lines in it so far. -/
abbrev OpenSection := Option (Bytes × Bytes)

/-- The known sections of a file, up to a fault. -/
def sections : OpenSection → List Bytes → List (Except PemFault (SectionKind × Bytes))
  | none, [] => []
  | some (label, _), [] => [.error (.missingEnd label)]
  | state, line :: rest =>
    if beginMark.isPrefixOf line then
      match label? line with
      | none => [.error (.illegalStart line)]
      | some label => sections (some (label, (state.map (·.2)).getD [])) rest
    else
      match state with
      | none => sections none rest
      | some (label, body) =>
        if isEnd label line then
          match SectionKind.labels.find? fun (name, _) => ascii name = label with
          | none => sections none rest
          | some (_, kind) =>
            match content body with
            | .error fault => [.error fault]
            | .ok bytes => .ok (kind, bytes) :: sections none rest
        else sections (some (label, body ++ line)) rest

/-- All sections of the wanted kinds, unless there is a fault. -/
def all (wanted : List SectionKind) (file : Bytes) : Except PemFault (List (SectionKind × Bytes)) := do
  let found ← (sections none (lines [] file)).mapM id
  return found.filter fun (kind, _) => kind ∈ wanted

/-- The first section of the wanted kinds; faults behind it do not matter. -/
def first (wanted : List SectionKind) (file : Bytes) : Except PemFault (SectionKind × Bytes) :=
  let relevant := (sections none (lines [] file)).filter fun
    | .ok (kind, _) => kind ∈ wanted
    | .error _ => true
  relevant.headD (.error .noItems)

end Pem

end TunnelKeeper.Tls
