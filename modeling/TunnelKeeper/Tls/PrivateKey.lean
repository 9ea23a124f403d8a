import TunnelKeeper.Tls.Curve
import TunnelKeeper.Tls.Pem

/-!
Private keys of a server and the public keys that belong to them: RSA keys, keys on the curves P-256
and P-384, and Ed25519 keys. A key that contradicts itself is none.
-/

namespace TunnelKeeper.Tls

namespace PrivateKey

open Der

/-- The kinds of key by the content of their algorithm identifiers. -/
def rsaAlgorithm : Bytes :=
  [0x06, 0x09, 0x2a, 0x86, 0x48, 0x86, 0xf7, 0x0d, 0x01, 0x01, 0x01, 0x05, 0x00]
def p256Identifier : Bytes := [0x06, 0x08, 0x2a, 0x86, 0x48, 0xce, 0x3d, 0x03, 0x01, 0x07]
def p384Identifier : Bytes := [0x06, 0x05, 0x2b, 0x81, 0x04, 0x00, 0x22]
def curveAlgorithm (identifier : Bytes) : Bytes :=
  [0x06, 0x07, 0x2a, 0x86, 0x48, 0xce, 0x3d, 0x02, 0x01] ++ identifier
def edwardsAlgorithm : Bytes := [0x06, 0x03, 0x2b, 0x65, 0x70]

/-- The content of the public key information of a certificate. -/
def publicKeyInfo (algorithm key : Bytes) : Bytes :=
  element sequence algorithm ++ element bitString (0 :: key)

/-- The key inside a wrapper that names its algorithm, and the public key where the wrapper is of
the version that must have one. -/
def unwrap? (algorithm : Bytes) (bytes : Bytes) : Option (Bytes × Option Bytes) := do
  let (version, rest) ← natural? (← only? sequence bytes)
  let (actual, rest) ← take? sequence rest
  if actual ≠ algorithm then none
  let (key, rest) ← take? octetString rest
  let (_, rest) ← optional? (context 0) rest
  match version with
  | 0 => if rest = [] then return (key, none) else none
  | 1 =>
    let (info, rest) ← (take? 0x81 rest).or (take? (context 1) rest)
    if rest = [] then return (key, some (← wholeBits? info)) else none
  | _ => none

/-- An RSA key: the modulus and the exponents, and the parts that shorten the work. -/
def rsa? (bytes : Bytes) : Option Bytes := do
  let (version, rest) ← natural? (← only? sequence bytes)
  let (n, rest) ← natural? rest
  let (e, rest) ← natural? rest
  let (d, rest) ← natural? rest
  let (p, rest) ← natural? rest
  let (q, rest) ← natural? rest
  let (dp, rest) ← natural? rest
  let (dq, rest) ← natural? rest
  let (inverse, rest) ← natural? rest
  let sizes := Nat.pow 2 2047 ≤ n ∧ n < Nat.pow 2 4096 ∧ 65537 ≤ e ∧ e < Nat.pow 2 33 ∧ e % 2 = 1
  let parts := n = p * q ∧ inverse * q % p = 1 ∧ d % 2 = 1 ∧ d < n ∧ dp < p ∧ dq < q ∧
    dp * e % (p - 1) = 1 ∧ dq * e % (q - 1) = 1
  if rest = [] ∧ version = 0 ∧ sizes ∧ parts then
    return publicKeyInfo rsaAlgorithm (element sequence (naturalElement n ++ naturalElement e))
  else none

/-- A key on a curve: the number, perhaps the curve, and the point, which must belong to the
number. -/
def curve? (c : Curve) (identifier bytes : Bytes) : Option Bytes := do
  let (version, rest) ← natural? (← only? sequence bytes)
  let (secret, rest) ← take? octetString rest
  let (named, rest) ← optional? (context 0) rest
  let (point, rest) ← take? (context 1) rest
  let stated ← wholeBits? (← only? bitString point)
  let number := natOfBytes secret
  let sound := secret.length = c.size ∧ 0 < number ∧ number < c.order
  let fits := version = 1 ∧ rest = [] ∧ named.all (· = identifier)
  if fits ∧ sound ∧ stated = c.publicKey number then
    return publicKeyInfo (curveAlgorithm identifier) stated
  else none

/-- A key on the Edwards curve; its public key may be stated. -/
def edwards? (bytes : Bytes) : Option Bytes := do
  let (inner, stated) ← unwrap? edwardsAlgorithm bytes
  let seed ← only? octetString inner
  let key := Edwards.publicKey seed
  if seed.length = 32 ∧ stated.all (· = key) then return publicKeyInfo edwardsAlgorithm key
  else none

/-- A wrapped key without a stated public key. -/
def unwrapPlain? (algorithm bytes : Bytes) : Option Bytes := do
  let (key, stated) ← unwrap? algorithm bytes
  if stated.isNone then return key else none

/-- The public key information of a private key, if it is a key of a supported kind. -/
def publicKeyInfo? : SectionKind × Bytes → Option Bytes
  | (.rsaKey, bytes) => rsa? bytes
  | (.ecKey, bytes) =>
    (curve? .p256 p256Identifier bytes).or (curve? .p384 p384Identifier bytes)
  | (.privateKey, bytes) =>
    ((unwrapPlain? rsaAlgorithm bytes) >>= rsa?)
      |>.or (unwrapPlain? (curveAlgorithm p256Identifier) bytes >>= curve? .p256 p256Identifier)
      |>.or (unwrapPlain? (curveAlgorithm p384Identifier) bytes >>= curve? .p384 p384Identifier)
      |>.or (edwards? bytes)
  | _ => none

end PrivateKey

end TunnelKeeper.Tls
