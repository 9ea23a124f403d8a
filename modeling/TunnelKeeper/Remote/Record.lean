import TunnelKeeper.Record.Payload
import TunnelKeeper.Text.Quoted
import TunnelKeeper.Time.Rfc3339

/-!
The records that remote access deals in: the identity of this instance, its certificate, the
session token of a connection, and the parameters of a tunnel.

Tokens and parameters have a short and a tall notation for people, which leave the secrets out.
-/

namespace TunnelKeeper

open Record (Payload required)

/-- The domain and the relay server of this instance, and whom to contact about it. -/
structure InstanceIdentity where
  domain : String
  relayServer : String
  contact : String
  deriving DecidableEq, Repr

instance : Payload InstanceIdentity where
  shape :=
    { name := "InstanceIdentity"
      fields := [required "domain" .text, required "relay_server" .text,
        required "contact" .text] }
  toData i := [.scalar (.text i.domain), .scalar (.text i.relayServer), .scalar (.text i.contact)]
  ofData?
    | [.scalar (.text domain), .scalar (.text relayServer), .scalar (.text contact)] =>
      some ⟨domain, relayServer, contact⟩
    | _ => none

/-- A certificate: the name it was issued for and the end of its validity. -/
structure Certificate where
  commonName : String
  expireDate : Instant
  fingerprint : String
  deriving DecidableEq, Repr

namespace Certificate

instance : Payload Certificate where
  shape :=
    { name := "Certificate"
      fields := [required "common_name" .text, required "expire_date" .timestamp,
        required "fingerprint" .text] }
  toData c := [.scalar (.text c.commonName), .scalar (.timestamp c.expireDate),
    .scalar (.text c.fingerprint)]
  ofData?
    | [.scalar (.text commonName), .scalar (.timestamp expireDate), .scalar (.text fingerprint)] =>
      some ⟨commonName, expireDate, fingerprint⟩
    | _ => none

/-- The certificate has not expired. -/
def ValidAt (c : Certificate) (now : Instant) : Prop := now < c.expireDate

instance (c : Certificate) (now : Instant) : Decidable (c.ValidAt now) :=
  inferInstanceAs (Decidable (now < c.expireDate))

end Certificate

/-! ### Notation for people -/

/-- Named values on one line; the dots stand for what is left out. -/
def shortNotation (name : String) (fields : List (String × String)) : String :=
  name ++ " \x7b " ++ String.join (fields.map fun (key, value) => key ++ ": " ++ value ++ ", ") ++
    ".. \x7d"

/-- Named values, one a line. -/
def tallNotation (name : String) (fields : List (String × String)) : String :=
  name ++ " \x7b\n" ++
    String.join (fields.map fun (key, value) => "    " ++ key ++ ": " ++ value ++ ",\n") ++
    "    ..\n\x7d"

/-- What authorises one connection to the relay: the token, and the key and the initial vector of
its payload. `K` names the key material. -/
structure SessionToken (K : Type) where
  authToken : String
  keys : K
  validUntil : Instant
  throttling : UInt32
  deriving DecidableEq, Repr

namespace SessionToken

variable {K : Type}

/-- The token can still be used. -/
def ValidAt (t : SessionToken K) (now : Instant) : Prop := now < t.validUntil

instance (t : SessionToken K) (now : Instant) : Decidable (t.ValidAt now) :=
  inferInstanceAs (Decidable (now < t.validUntil))

/-- The values that may be shown. -/
def shown (t : SessionToken K) : List (String × String) :=
  [("valid_until", t.validUntil.text), ("throttling", toString t.throttling)]

def short (t : SessionToken K) : String := shortNotation "SessionToken" t.shown
def tall (t : SessionToken K) : String := tallNotation "SessionToken" t.shown

end SessionToken

/-- The relay that a tunnel leads to. -/
structure TunnelParams where
  server : String
  port : UInt16
  deriving DecidableEq, Repr

namespace TunnelParams

def shown (p : TunnelParams) : List (String × String) :=
  [("server", quoted p.server), ("port", toString p.port)]

def short (p : TunnelParams) : String := shortNotation "TunnelParams" p.shown
def tall (p : TunnelParams) : String := tallNotation "TunnelParams" p.shown

end TunnelParams

end TunnelKeeper
