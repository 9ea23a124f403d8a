import TunnelKeeper.Remote.Error
import TunnelKeeper.Remote.Record
import TunnelKeeper.Remote.Signal
import TunnelKeeper.Logging.Filter

/-!
What the coordinator does that others can see: calls to its collaborators, signals and messages to
the host, log lines, and the results of the operations asked of it.
-/

namespace TunnelKeeper.Coordinator

/-- A key and an initial vector, numbered in the order in which they were generated. -/
abbrev KeyId := Nat

abbrev Token := SessionToken KeyId

/-- The bytes of a key and of an initial vector. -/
def keyLength : Nat := 32
def ivLength : Nat := 16

/-- What became of a check of the certificate. -/
inductive CertificateCheck where
  /-- No backend was ready; a load was tried instead. -/
  | loadedBackend
  | notDue
  | renewed
  | renewalFailed
  deriving DecidableEq, Repr

def CertificateCheck.name : CertificateCheck → String
  | loadedBackend => "LoadedBackend"
  | notDue => "NotDue"
  | renewed => "Renewed"
  | renewalFailed => "RenewalFailed"

/-- A line of the log. -/
inductive Notice where
  | registered (identity : InstanceIdentity)
  | cannotRegister (error : RemoteError)
  | cannotLoad (error : CertificateError)
  | wrongCertificate (commonName domain : String)
  | cannotReset (error : CertificateError)
  | issuanceFailed (error : CertificateError)
  | cannotHarden (error : CertificateError)
  | cannotBuildTls (error : CertificateError)
  | cannotStart (error : TransportError)
  | backendUp (relay : String) (port : UInt16)
  | backendDown
  | connectionRequested (caller : String)
  | connectionProblem (error : RemoteError)
  | connected
  | disconnected
  | tunnelLost
  | renewing (expire : Option Instant)
  | renewalFailed (error : CertificateError)

namespace Notice

def level : Notice → Logging.Level
  | registered _ => .info
  | cannotRegister _ => .error
  | cannotLoad _ => .warn
  | wrongCertificate _ _ => .warn
  | cannotReset _ => .warn
  | issuanceFailed _ => .warn
  | cannotHarden _ => .warn
  | cannotBuildTls _ => .warn
  | cannotStart _ => .error
  | backendUp _ _ => .info
  | backendDown => .info
  | connectionRequested _ => .info
  | connectionProblem _ => .error
  | connected => .info
  | disconnected => .info
  | tunnelLost => .info
  | renewing _ => .info
  | renewalFailed _ => .warn

def text : Notice → String
  | registered _ => "Remote instance registered"
  | cannotRegister error => "Can't register remote backend: " ++ error.message
  | cannotLoad error => "Can't load existing certificate: " ++ error.message
  | wrongCertificate _ _ => "Invalid certificate found, resetting"
  | cannotReset error => "Can't reset certificate authority: " ++ error.message
  | issuanceFailed error =>
    "Certificate issuance failed, remote setup stalled: " ++ error.message
  | cannotHarden error => "Can't harden certificate files: " ++ error.message
  | cannotBuildTls error => "Can't build TLS context, remote setup stalled: " ++ error.message
  | cannotStart error => "Can't start tunnel client: " ++ error.message
  | backendUp _ _ => "Remote backend up"
  | backendDown => "Remote backend down"
  | connectionRequested _ => "Connection requested, connecting to relay"
  | connectionProblem error => "Connection problem to relay: " ++ error.message
  | connected => "Connected to relay"
  | disconnected => "Disconnected from relay"
  | tunnelLost => "Tunnel disconnected from relay"
  | renewing _ => "Renewing certificate"
  | renewalFailed error => "Renewal of certificate failed: " ++ error.message

/-- An optional date for people. -/
def dateText : Option Instant → String
  | none => "None"
  | some t => "Some(" ++ t.text ++ ")"

def fields : Notice → List (String × String)
  | registered identity => [("domain", identity.domain), ("relay", identity.relayServer)]
  | wrongCertificate commonName domain => [("common_name", commonName), ("domain", domain)]
  | backendUp relay port => [("relay", relay), ("port", toString port)]
  | connectionRequested caller => [("caller", caller)]
  | renewing expire => [("expire_date", dateText expire)]
  | _ => []

end Notice

/-- A message that the user keeps seeing until another one takes its place. -/
inductive Message where
  | setupFailed
  | ready
  deriving DecidableEq, Repr

namespace Message

/-- Both messages share a place. -/
def identifier : String := "remote_certificate"
def title : String := "Remote access"

def text : Message → String
  | setupFailed =>
    "Remote access setup failed: no certificate could be issued. Setup is retried automatically."
  | ready => "Remote access is ready."

end Message

/-- What an operation came back with. -/
inductive Result where
  | ok
  | notConnected
  | check (outcome : CertificateCheck)
  | token (result : Except BackendError Token)
  | kept (token : Option Token)
  | panic

inductive Event where
  | register
  | token (key : KeyId)
  | createAuthority (domain email : String)
  | loadCertificate
  | issueCertificate (domain : String)
  | resetAuthority
  | hardenFiles
  | createTunnel (tunnel : Nat) (params : TunnelParams)
  | startTunnel (tunnel : Nat)
  | stopTunnel (tunnel : Nat)
  | connectTunnel (tunnel : Nat) (token : Token)
  | disconnectTunnel (tunnel : Nat)
  | signal (event : RemoteEvent)
  | message (message : Message)
  | runtimeReady (answer : Bool)
  | autostart (answer : Bool)
  | notice (notice : Notice)
  | done (entry : Nat) (result : Result)

end TunnelKeeper.Coordinator
