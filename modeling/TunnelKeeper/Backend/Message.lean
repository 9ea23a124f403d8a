import TunnelKeeper.Backend.Error
import TunnelKeeper.Record.Payload
import TunnelKeeper.Text.Hex
import TunnelKeeper.Time.Instant

/-!
The payloads of the two backend calls: registration of this instance, and a session token for key
material of the caller's choice.
-/

namespace TunnelKeeper

open Record (Datum Payload Scalar required u32 i64)

/-- The paths of the two calls, below the base URL. -/
def registerPath : String := "/register_instance"
def tokenPath : String := "/snitun_token"

/-- What the backend assigns to this instance. -/
structure RegisterResponse where
  domain : String
  email : String
  server : String
  deriving DecidableEq, Repr

namespace RegisterResponse

instance : Payload RegisterResponse where
  shape :=
    { name := "RegisterResponse"
      fields := [required "domain" .text, required "email" .text, required "server" .text] }
  toData r := [.scalar (.text r.domain), .scalar (.text r.email), .scalar (.text r.server)]
  ofData?
    | [.scalar (.text domain), .scalar (.text email), .scalar (.text server)] =>
      some ⟨domain, email, server⟩
    | _ => none

/-- A registration needs a domain and a relay server. -/
def validate (r : RegisterResponse) : Except ProtocolError Unit :=
  if r.domain = "" then .error (.missingField "domain")
  else if r.server = "" then .error (.missingField "server")
  else .ok ()

end RegisterResponse

/-- A request for a token bound to a key and an initial vector, both in hexadecimal. -/
structure TokenRequest where
  aesKey : String
  aesIv : String
  deriving DecidableEq, Repr

namespace TokenRequest

instance : Payload TokenRequest where
  shape :=
    { name := "TokenRequest", fields := [required "aes_key" .text, required "aes_iv" .text] }
  toData r := [.scalar (.text r.aesKey), .scalar (.text r.aesIv)]
  ofData?
    | [.scalar (.text aesKey), .scalar (.text aesIv)] => some ⟨aesKey, aesIv⟩
    | _ => none

def ofBytes (key iv : List UInt8) : TokenRequest := ⟨Hex.encode key, Hex.encode iv⟩

end TokenRequest

/-- A token, the second until which it is valid, and the rate the relay allows it. -/
structure TokenResponse where
  token : String
  valid : Int64
  throttling : UInt32
  deriving DecidableEq, Repr

namespace TokenResponse

instance : Payload TokenResponse where
  shape :=
    { name := "TokenResponse"
      fields := [required "token" .text, required "valid" (.integer i64),
        required "throttling" (.integer u32)] }
  toData r := [.scalar (.text r.token), .scalar (.integer r.valid.toInt),
    .scalar (.integer r.throttling.toNat)]
  ofData?
    | [.scalar (.text token), .scalar (.integer valid), .scalar (.integer throttling)] =>
      some ⟨token, .ofInt valid, .ofNat throttling.toNat⟩
    | _ => none

/-- The end of the token's validity, if the calendar has it. -/
def validUntil (r : TokenResponse) : Except ProtocolError Instant :=
  match Instant.ofUnixSecs? r.valid.toInt with
  | some t => .ok t
  | none => .error (.invalidTimestamp r.valid.toInt)

end TokenResponse

end TunnelKeeper
