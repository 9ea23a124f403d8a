import TunnelKeeper.Backend.Message
import TunnelKeeper.Remote.Error

/-!
What the collaborators will answer: one entry for every call, the last one over and over. An entry
may take its time before it takes effect.
-/

namespace TunnelKeeper.Coordinator

/-- An answer, and the milliseconds until it is there. -/
structure Delayed (α : Type) where
  delay : Nat := 0
  answer : α

/-- The answers to come. An empty script gives the same answer at once, over and over. -/
structure Script (α : Type) where
  entries : List (Delayed α) := []
  usual : α

namespace Script

variable {α : Type}

/-- The next answer, and what is left. -/
def next (s : Script α) : Delayed α × Script α :=
  match s.entries with
  | [] => ({ answer := s.usual }, s)
  | [last] => (last, s)
  | first :: rest => (first, { s with entries := rest })

end Script

/-- A certificate as it will be issued: its name, unless it is the domain, and how long it lasts. -/
structure Issue where
  commonName : Option String := none
  validMillis : Int := 90 * 86400000

/-- A token as it will be granted: its text, unless it is the usual one, and its end, as a second or
as seconds from now. -/
structure Grant where
  token : Option String := none
  valid : Option Int := none
  validIn : Int := 300
  throttling : UInt32 := 400

/-- The collaborators' answers. -/
structure Scripts where
  register : Script (Except BackendError RegisterResponse) :=
    { usual := .ok ⟨"abc.example", "a@b.com", "relay1"⟩ }
  token : Script (Except BackendError Grant) := { usual := .ok {} }
  load : Script (Except CertificateError Unit) := { usual := .ok () }
  issue : Script (Except CertificateError Issue) := { usual := .ok {} }
  reset : Script (Except CertificateError Unit) := { usual := .ok () }
  harden : Script (Except CertificateError Unit) := { usual := .ok () }
  tls : Script (Except CertificateError Unit) := { usual := .ok () }
  start : Script (Except TransportError Unit) := { usual := .ok () }
  stop : Script Unit := { usual := () }
  /-- Whether the connection stays up. -/
  connect : Script (Except TransportError Bool) := { usual := .ok true }
  disconnect : Script Unit := { usual := () }

end TunnelKeeper.Coordinator
