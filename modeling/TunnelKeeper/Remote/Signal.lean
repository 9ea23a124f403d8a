import TunnelKeeper.Json.Decode

/-!
What the host sees of remote access: its state, and a signal for every change. Both have a name
for records and a text for people.
-/

namespace TunnelKeeper

/-- A type with finitely many values, which have names in records. -/
class Named (α : Type) where
  all : List α
  name : α → String

def Named.ofName? [Named α] (s : String) : Option α := all.find? fun value => name value = s

/-- Where the connection to the relay stands. -/
inductive ConnectionState where
  | noBackend
  | backendLoading
  | disconnected
  | connecting
  | connected
  | reconnectPending
  deriving DecidableEq, Repr

namespace ConnectionState

def all : List ConnectionState :=
  [noBackend, backendLoading, disconnected, connecting, connected, reconnectPending]

def name : ConnectionState → String
  | noBackend => "NoBackend"
  | backendLoading => "BackendLoading"
  | disconnected => "Disconnected"
  | connecting => "Connecting"
  | connected => "Connected"
  | reconnectPending => "ReconnectPending"

def text : ConnectionState → String
  | noBackend => "no backend"
  | backendLoading => "backend loading"
  | disconnected => "disconnected"
  | connecting => "connecting"
  | connected => "connected"
  | reconnectPending => "reconnect pending"

instance : Named ConnectionState := ⟨all, name⟩

end ConnectionState

/-- A change that the host is told about. -/
inductive RemoteEvent where
  | backendUp
  | backendDown
  | connected
  | disconnected
  deriving DecidableEq, Repr

namespace RemoteEvent

def all : List RemoteEvent := [backendUp, backendDown, connected, disconnected]

def name : RemoteEvent → String
  | backendUp => "BackendUp"
  | backendDown => "BackendDown"
  | connected => "Connected"
  | disconnected => "Disconnected"

def text : RemoteEvent → String
  | backendUp => "remote_backend_up"
  | backendDown => "remote_backend_down"
  | connected => "remote_connect"
  | disconnected => "remote_disconnect"

instance : Named RemoteEvent := ⟨all, name⟩

end RemoteEvent

/-- The value that a JSON text names. -/
def Json.decodeNamed (α : Type) [Named α] (s : String) : Json.Reader α := do
  let name ← Json.decodeChoice ((Named.all : List α).map Named.name) s
  match Named.ofName? name with
  | some value => return value
  | none => .error .syntaxError

end TunnelKeeper
