import TunnelKeeper.Backend.Error

/-!
Errors of the certificate authority, of the tunnel, and of remote access as a whole.
-/

namespace TunnelKeeper

inductive CertificateError where
  | issue (reason : String)
  | load (reason : String)
  | tls (reason : String)
  | io (reason : String)
  deriving DecidableEq, Repr

namespace CertificateError

def message : CertificateError → String
  | issue reason => "Certificate issuance failed: " ++ reason
  | load reason => "Certificate load failed: " ++ reason
  | tls reason => "TLS context error: " ++ reason
  | io reason => "I/O error: " ++ reason

def sources : CertificateError → List String
  | io reason => [reason]
  | _ => []

end CertificateError

inductive TransportError where
  | connect (reason : String)
  | start (reason : String)
  deriving DecidableEq, Repr

namespace TransportError

def message : TransportError → String
  | connect reason => "Connection to relay failed: " ++ reason
  | start reason => "Tunnel client failed to start: " ++ reason

def sources (_ : TransportError) : List String := []

end TransportError

/-- Why an operation of the coordinator did not succeed. -/
inductive RemoteError where
  | notConnected
  | backend (error : BackendError)
  | certificate (error : CertificateError)
  | transport (error : TransportError)
  | superseded
  | cancelled

namespace RemoteError

def message : RemoteError → String
  | notConnected => "Remote backend is not loaded"
  | backend error => "Backend error: " ++ error.message
  | certificate error => "Certificate error: " ++ error.message
  | transport error => "Transport error: " ++ error.message
  | superseded => "Backend was reloaded during the operation"
  | cancelled => "Operation was cancelled"

def sources : RemoteError → List String
  | backend error => error.message :: error.sources
  | certificate error => error.message :: error.sources
  | transport error => error.message :: error.sources
  | _ => []

end RemoteError

end TunnelKeeper
