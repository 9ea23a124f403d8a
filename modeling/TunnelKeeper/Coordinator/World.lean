import TunnelKeeper.Config.Basic
import TunnelKeeper.Coordinator.Point
import TunnelKeeper.Schedule.Lock
import TunnelKeeper.Schedule.TaskSlot
import TunnelKeeper.Time.Zone

/-!
The coordinator and all it deals with: its own state, the load cycles and tunnels of its
collaborators, the host, the tasks at work, and the trace of what happened.
-/

namespace TunnelKeeper.Coordinator

/-- One registration: the identity it gave, the authority's current certificate, and the token that
is kept for the next connection, with the lock that its users take. -/
structure LoadCycle where
  identity : InstanceIdentity
  certificate : Option Certificate := none
  tokenLock : Lock := {}
  token : Option Token := none

/-- How far a tunnel has come. -/
inductive TunnelStage where
  /-- It has not started, or could not. -/
  | created
  | running
  /-- It has been told to stop. -/
  | stopping
  | stopped
  deriving DecidableEq, Repr

structure Tunnel where
  params : TunnelParams
  stage : TunnelStage := .created
  connected : Bool := false

/-- The wall clock shows nothing beyond whole milliseconds. -/
def wholeMillis : Fin 1000000 := ⟨0, by decide⟩

structure World where
  config : Config := {}
  /-- The time of the wall clock at the start, in milliseconds since 1970. -/
  startMillis : Int := 0
  /-- What the wall clock shows beyond whole milliseconds. -/
  startNanos : Fin 1000000 := wholeMillis
  zone : Zone := .utc
  state : State := {}
  connectLock : Lock := {}
  handlerSlot : TaskSlot := {}
  guardSlot : TaskSlot := {}
  cycles : List LoadCycle := []
  tunnels : List Tunnel := []
  /-- The certificate in the storage that all authorities share. -/
  storage : Option Certificate := none
  /-- How many certificates have been issued. -/
  issued : Nat := 0
  /-- How many keys have been generated. -/
  keys : Nat := 0
  runtimeReady : Bool := true
  autostart : Bool := false
  scripts : Scripts := {}
  /-- The random draws, and how many of them have been made. -/
  draws : Nat → Nat := fun _ => 0
  drawn : Nat := 0
  /-- The tasks that wait for a TLS context, in the order of their turns. -/
  builds : List TaskId := []
  schedule : Schedule Task := {}
  /-- The number of the next operation that is asked for. -/
  nextEntry : Nat := 0
  /-- What happened, with the time in milliseconds, the latest first. -/
  trace : List (Nat × Event) := []

namespace World

/-- The time in milliseconds since the start. -/
def now (w : World) : Nat := w.schedule.now

/-- What the wall clock shows so many milliseconds after the start. -/
def clockAfter (w : World) (ms : Int) : Instant :=
  let t := Instant.ofUnixMillis (w.startMillis + ms)
  { t with nanos := t.nanos + w.startNanos }

/-- The wall clock. -/
def clock (w : World) : Instant := w.clockAfter w.now

def record (w : World) (e : Event) : World := { w with trace := (w.now, e) :: w.trace }

def notice (w : World) (n : Notice) : World := w.record (.notice n)

def signal (w : World) (e : RemoteEvent) : World := w.record (.signal e)

/-! ### Tasks -/

def spawn (w : World) (t : Task) : World := { w with schedule := w.schedule.spawn t }

def wake (w : World) (t : TaskId) : World := { w with schedule := w.schedule.wake t }

/-- Wakes a task if there is one. -/
def wakeOption (w : World) : Option TaskId → World
  | none => w
  | some t => w.wake t

/-- When a pause of the given length ends. -/
def after (w : World) (d : Duration) : Nat := w.now + d.timerMillis

/-- The time of the answer of a call that is made now. -/
def callFor (w : World) (d : Delayed α) : Call α := ⟨w.now + d.delay, d.answer⟩

/-- The next random draw. -/
def draw (w : World) : Nat × World := (w.draws w.drawn, { w with drawn := w.drawn + 1 })

/-! ### Slots -/

/-- Spawns the nightly handler unless it is there. -/
def startHandler (w : World) : World :=
  if w.handlerSlot.isRunning then w
  else { w with
    handlerSlot := w.handlerSlot.occupy w.schedule.next
    schedule := w.schedule.spawn (.handler .start) }

/-- Cancels the nightly handler. -/
def cancelHandler (w : World) : World :=
  { w with handlerSlot := w.handlerSlot.cancel }.wakeOption w.handlerSlot.occupant

/-- Spawns a guard of a generation, unless there is a guard or the generation's backend is gone. -/
def startGuard (w : World) (generation : Nat) : World :=
  if (w.state.activeFor? generation).isNone || w.guardSlot.isRunning then w
  else { w with
    guardSlot := w.guardSlot.occupy w.schedule.next
    schedule := w.schedule.spawn (.guard generation .start) }

/-- Cancels the guard. -/
def cancelGuard (w : World) : World :=
  { w with guardSlot := w.guardSlot.cancel }.wakeOption w.guardSlot.occupant

/-- One of the background tasks was cancelled. -/
def isCancelled (w : World) (t : TaskId) : Bool :=
  w.handlerSlot.isCancelled t || w.guardSlot.isCancelled t

/-! ### Load cycles and tunnels -/

def cycle? (w : World) (c : CycleId) : Option LoadCycle := w.cycles[c]?

def modifyCycle (w : World) (c : CycleId) (f : LoadCycle → LoadCycle) : World :=
  { w with cycles := w.cycles.modify c f }

/-- The authority's current certificate. -/
def certificate? (w : World) (c : CycleId) : Option Certificate := w.cycle? c >>= (·.certificate)

/-- The domain of a load cycle. -/
def domain (w : World) (c : CycleId) : String := ((w.cycle? c).map (·.identity.domain)).getD ""

/-- The relay server of a load cycle. -/
def relay (w : World) (c : CycleId) : String :=
  ((w.cycle? c).map (·.identity.relayServer)).getD ""

def isConnected (w : World) (n : TunnelId) : Bool := (w.tunnels[n]?).any (·.connected)

/-- The task waits for the tunnel's connection to be lost. -/
def watches (n : TunnelId) (t : Task) : Bool := t.wait = .lost n

def modifyTunnel (w : World) (n : TunnelId) (f : Tunnel → Tunnel) : World :=
  { w with tunnels := w.tunnels.modify n f }

/-- The tunnel's connection comes up or goes down; whoever watches it wakes. -/
def setConnected (w : World) (n : TunnelId) (connected : Bool) : World :=
  { w.modifyTunnel n fun tunnel => { tunnel with connected := connected } with
    schedule := w.schedule.wakeWhere (watches n) }

/-! ### Locks -/

def enterConnectLock (w : World) (t : TaskId) : World :=
  { w with connectLock := w.connectLock.enter t }

def leaveConnectLock (w : World) (t : TaskId) : World :=
  let (lock, woken) := w.connectLock.leave t
  { w with connectLock := lock }.wakeOption woken

def tokenLock (w : World) (c : CycleId) : Lock := ((w.cycle? c).map (·.tokenLock)).getD {}

def enterTokenLock (w : World) (c : CycleId) (t : TaskId) : World :=
  w.modifyCycle c fun cycle => { cycle with tokenLock := cycle.tokenLock.enter t }

def leaveTokenLock (w : World) (c : CycleId) (t : TaskId) : World :=
  let (_, woken) := (w.tokenLock c).leave t
  (w.modifyCycle c fun cycle => { cycle with tokenLock := (cycle.tokenLock.leave t).1 }).wakeOption
    woken

/-! ### What others see -/

/-- The state of the connection. -/
def connectionState (w : World) : ConnectionState :=
  match w.state.phase with
  | .absent => .noBackend
  | .registering => .backendLoading
  | .loading _ => .backendLoading
  | .stalled _ => .backendLoading
  | .ready _ n =>
    if w.isConnected n then .connected
    else if w.connectLock.IsHeld then .connecting
    else if w.guardSlot.isRunning then .reconnectPending
    else .disconnected

/-- The backend is ready and its tunnel is connected. -/
def hasConnection (w : World) : Bool := w.state.active?.any fun a => w.isConnected a.tunnel

/-- The load cycle of the loaded backend. -/
def loaded? (w : World) : Option LoadCycle := w.state.phase.registration? >>= w.cycle?

end World

/-! ### Waiting -/

namespace World

/-- What a task waits for has come about. -/
def arrived (w : World) (t : TaskId) : Wait → Bool
  | .nothing => true
  | .time due => due ≤ w.now
  | .connectLock => w.connectLock.holder = some t
  | .tokenLock c => (w.tokenLock c).holder = some t
  | .lost n => !w.isConnected n
  | .build => t ∉ w.builds

/-- The task need not wait any longer. -/
def ready (w : World) (t : TaskId) (task : Task) : Bool :=
  w.arrived t task.wait || (task.heedsCancel && w.isCancelled t)

/-- The time that a task waits for, if it waits for one. -/
def alarm (task : Task) : Option Nat :=
  match task.wait with
  | .time due => some due
  | _ => none

end World

end TunnelKeeper.Coordinator
