import TunnelKeeper.Json.Cursor
import TunnelKeeper.Time.Duration

/-!
What can go wrong in a call to the backend, and the words for it. Every error has a message, and
the messages of the errors that caused it, the nearest first.
-/

namespace TunnelKeeper

/-- A payload that cannot be used. -/
inductive ProtocolError where
  | missingField (field : String)
  | invalidTimestamp (secs : Int)
  | json (fault : Json.Fault)

namespace ProtocolError

def message : ProtocolError → String
  | missingField field => "Missing required field: " ++ field
  | invalidTimestamp secs => "Invalid timestamp: " ++ toString secs
  | json fault => "JSON error: " ++ fault.message

def sources : ProtocolError → List String
  | json fault => [fault.message]
  | _ => []

end ProtocolError

/-- A call to the backend that failed. -/
inductive BackendError where
  | timeout (deadline : Duration)
  | status (code : UInt16)
  | http (reason : String)
  | protocol (error : ProtocolError)
  | config (reason : String)

namespace BackendError

def message : BackendError → String
  | timeout deadline => "Request timed out after " ++ deadline.text
  | status code => "Unexpected status: " ++ toString code
  | http reason => "HTTP request failed: " ++ reason
  | protocol error => "Invalid payload: " ++ error.message
  | config reason => "Configuration error: " ++ reason

def sources : BackendError → List String
  | protocol error => error.message :: error.sources
  | _ => []

end BackendError

end TunnelKeeper
