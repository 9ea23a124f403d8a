import TunnelKeeper.Remote.Error
import TunnelKeeper.Tls.PrivateKey

/-!
The TLS context of the server: a chain of certificates and a private key from two files. The key
must belong to the first certificate of the chain.
-/

namespace TunnelKeeper.Tls

/-- A file by its name, with its bytes if it exists. -/
structure PemFile where
  name : String
  bytes : Option Bytes

/-- Why a certificate cannot be used. -/
inductive CertificateFault where
  | badEncoding
  | other (name : String)
  deriving DecidableEq, Repr

/-- Why there is no context. -/
inductive ContextFault where
  | unreadable (file : String) (fault : PemFault)
  | unparsable (file : String) (fault : PemFault)
  | noCertificate (file : String)
  | unsupportedKey
  | certificate (fault : CertificateFault)
  | mismatch
  deriving DecidableEq, Repr

def ContextFault.message : ContextFault → String
  | unreadable file fault => "Failed to read " ++ file ++ ": " ++ fault.message
  | unparsable file fault => "Failed to parse " ++ file ++ ": " ++ fault.message
  | noCertificate file => "No certificate found in " ++ file
  | unsupportedKey => "unexpected error: failed to parse private key as RSA, ECDSA, or EdDSA"
  | certificate .badEncoding => "invalid peer certificate: BadEncoding"
  | certificate (.other name) => "invalid peer certificate: Other(OtherError(" ++ name ++ "))"
  | mismatch => "keys may not be consistent: KeyMismatch"

def ContextFault.toError (fault : ContextFault) : CertificateError := .tls fault.message

/-! ### Certificates -/

namespace Certificate

open Der

/-- The extensions that are understood, by the end of their identifiers. -/
def knownExtensions : List UInt8 := [15, 17, 19, 30, 31, 37]

/-- One extension: the end of its identifier if it is a known one. Unknown extensions must not be
critical. -/
def extension? (bytes : Bytes) : Except CertificateFault (Option UInt8) :=
  let parts : Option (Bytes × Bool) := do
    let (id, rest) ← take? identifier bytes
    let (critical, rest) ← optional? 0x01 rest
    let (_, rest) ← take? octetString rest
    let flag ← match critical with
      | none => some false
      | some [0xff] => some true
      | some [0x00] => some false
      | some _ => none
    if rest = [] then return (id, flag) else none
  match parts with
  | none => .error .badEncoding
  | some ([0x55, 0x1d, n], critical) =>
    if n ∈ knownExtensions then .ok (some n)
    else if critical then .error (.other "UnsupportedCriticalExtension")
    else .ok none
  | some (_, critical) =>
    if critical then .error (.other "UnsupportedCriticalExtension") else .ok none

/-- A list of extensions, no known one twice. Every round passes one. -/
def extensions : Nat → List UInt8 → Bytes → Except CertificateFault Unit
  | _, _, [] => .ok ()
  | 0, _, _ => .error .badEncoding
  | rounds + 1, seen, bytes =>
    match take? sequence bytes with
    | none => .error .badEncoding
    | some (content, rest) => do
      match ← extension? content with
      | none => extensions rounds seen rest
      | some n =>
        if n ∈ seen then .error (.other "ExtensionValueInvalid")
        else extensions rounds (n :: seen) rest

/-- The fields of a certificate of version three: the public key information and what follows. -/
def fields? (bytes : Bytes) : Option (Except CertificateFault (Bytes × Bytes)) := do
  let outer ← only? sequence bytes
  let (signed, rest) ← take? sequence outer
  let (algorithm, rest) ← take? sequence rest
  let _ ← wholeBits? (← only? bitString rest)
  let (version, rest) ← take? (context 0) signed
  let (number, last) ← natural? version
  if last ≠ [] then none
  if number ≠ 2 then return .error (.other "UnsupportedCertVersion")
  let (serial, rest) ← take? integer rest
  if serial = [] then none
  let (inner, rest) ← take? sequence rest
  if inner ≠ algorithm then return .error (.other "SignatureAlgorithmMismatch")
  let (_, rest) ← take? sequence rest
  let (_, rest) ← take? sequence rest
  let (_, rest) ← take? sequence rest
  let (key, rest) ← take? sequence rest
  return .ok (key, rest)

/-- The content of the public key information of a certificate. -/
def publicKeyInfo (bytes : Bytes) : Except CertificateFault Bytes :=
  match fields? bytes with
  | none => .error .badEncoding
  | some (.error fault) => .error fault
  | some (.ok (key, [])) => .ok key
  | some (.ok (key, rest)) =>
    match only? (context 3) rest >>= only? sequence with
    | none => .error .badEncoding
    | some list => do
      extensions list.length [] list
      return key

end Certificate

/-! ### Contexts -/

/-- The protocols that the server speaks. -/
def protocols : List String := ["http/1.1"]

def PemFile.read (file : PemFile) : Except PemFault Bytes :=
  match file.bytes with
  | some bytes => .ok bytes
  | none => .error .noFile

/-- The chain of certificates of a file. -/
def readChain (file : PemFile) : Except ContextFault (List Bytes) :=
  match file.read with
  | .error fault => .error (.unreadable file.name fault)
  | .ok bytes =>
    match Pem.all [.certificate] bytes with
    | .error fault => .error (.unparsable file.name fault)
    | .ok found => .ok (found.map (·.2))

/-- The first private key of a file. -/
def readKey (file : PemFile) : Except ContextFault (SectionKind × Bytes) :=
  match file.read >>= Pem.first [.privateKey, .rsaKey, .ecKey] with
  | .error fault => .error (.unreadable file.name fault)
  | .ok key => .ok key

/-- The protocols of the context of a chain and a key. -/
def context (chain key : PemFile) : Except ContextFault (List String) := do
  match ← readChain chain with
  | [] => .error (.noCertificate chain.name)
  | leaf :: _ =>
    let key ← readKey key
    match PrivateKey.publicKeyInfo? key with
    | none => .error .unsupportedKey
    | some info =>
      match Certificate.publicKeyInfo leaf with
      | .error fault => .error (.certificate fault)
      | .ok stated => if stated = info then return protocols else .error .mismatch

end TunnelKeeper.Tls
