/-!
The backend's life cycle. A load takes it from absent through registering and loading to ready, or
to stalled when setup fails; taking it away makes it absent from anywhere.

Every load and every taking has a new generation. Work that was started for a generation changes
the state only while that generation is current.
-/

namespace TunnelKeeper

/-- The phases of a load, with the registration `ρ` and the tunnel `τ` once they are there. -/
inductive Phase (ρ τ : Type) where
  | absent
  | registering
  | loading (registration : ρ)
  | stalled (registration : ρ)
  | ready (registration : ρ) (tunnel : τ)
  deriving DecidableEq, Repr

namespace Phase

variable {ρ τ : Type}

def name : Phase ρ τ → String
  | absent => "absent"
  | registering => "registering"
  | loading _ => "loading"
  | stalled _ => "stalled"
  | ready _ _ => "ready"

def registration? : Phase ρ τ → Option ρ
  | absent => none
  | registering => none
  | loading r => some r
  | stalled r => some r
  | ready r _ => some r

/-- A load may begin: nothing is loaded, or setup stalled. -/
def Idle : Phase ρ τ → Prop
  | absent => True
  | stalled _ => True
  | _ => False

instance : DecidablePred (Idle (ρ := ρ) (τ := τ)) := fun p => by
  cases p <;> unfold Idle <;> infer_instance

end Phase

/-- A backend that is ready: its generation, its registration and its tunnel. -/
structure ActiveBackend (ρ τ : Type) where
  generation : Nat
  registration : ρ
  tunnel : τ
  deriving DecidableEq, Repr

structure BackendState (ρ τ : Type) where
  generation : Nat := 0
  phase : Phase ρ τ := .absent
  deriving DecidableEq, Repr

namespace BackendState

variable {ρ τ : Type}

/-- The generation has not been superseded. -/
def IsCurrent (s : BackendState ρ τ) (generation : Nat) : Prop := s.generation = generation

instance (s : BackendState ρ τ) (generation : Nat) : Decidable (s.IsCurrent generation) :=
  inferInstanceAs (Decidable (s.generation = generation))

/-- Begins a load if one may begin: its generation, and the new state. -/
def beginLoad (s : BackendState ρ τ) : Option Nat × BackendState ρ τ :=
  if s.phase.Idle then (some (s.generation + 1), ⟨s.generation + 1, .registering⟩) else (none, s)

/-- Gives up a registration that failed. -/
def abandon (s : BackendState ρ τ) (generation : Nat) : BackendState ρ τ :=
  match s.phase with
  | .registering => if s.IsCurrent generation then { s with phase := .absent } else s
  | _ => s

/-- From registering to loading. Whether it came to that. -/
def setLoading (s : BackendState ρ τ) (generation : Nat) (registration : ρ) :
    Bool × BackendState ρ τ :=
  match s.phase with
  | .registering =>
    if s.IsCurrent generation then (true, { s with phase := .loading registration })
    else (false, s)
  | _ => (false, s)

/-- From loading to stalled. Whether it came to that. -/
def setStalled (s : BackendState ρ τ) (generation : Nat) : Bool × BackendState ρ τ :=
  match s.phase with
  | .loading registration =>
    if s.IsCurrent generation then (true, { s with phase := .stalled registration })
    else (false, s)
  | _ => (false, s)

/-- From loading to ready. Whether it came to that. -/
def setReady (s : BackendState ρ τ) (generation : Nat) (tunnel : τ) : Bool × BackendState ρ τ :=
  match s.phase with
  | .loading registration =>
    if s.IsCurrent generation then (true, { s with phase := .ready registration tunnel })
    else (false, s)
  | _ => (false, s)

/-- Takes the backend away: the phase that it was in, and the new state. -/
def take (s : BackendState ρ τ) : Phase ρ τ × BackendState ρ τ :=
  (s.phase, ⟨s.generation + 1, .absent⟩)

/-- The backend that is ready, if one is. -/
def active? (s : BackendState ρ τ) : Option (ActiveBackend ρ τ) :=
  match s.phase with
  | .ready registration tunnel => some ⟨s.generation, registration, tunnel⟩
  | _ => none

/-- The backend that is ready, if it is of a generation. -/
def activeFor? (s : BackendState ρ τ) (generation : Nat) : Option (ActiveBackend ρ τ) :=
  s.active?.filter (·.generation = generation)

end BackendState

end TunnelKeeper
