import TunnelKeeper.Coordinator.Script
import TunnelKeeper.Coordinator.Event
import TunnelKeeper.Remote.BackendState

/-!
The programs of the coordinator, by the points at which they wait. At every point a program waits
for one thing: for a call or a pause to end, for a lock, for a connection to be lost, or for the TLS
context. Some of them give up as soon as they are cancelled.
-/

namespace TunnelKeeper.Coordinator

/-- A load cycle, numbered in the order in which instances were registered. -/
abbrev CycleId := Nat
abbrev TunnelId := Nat

abbrev State := BackendState CycleId TunnelId
abbrev Active := ActiveBackend CycleId TunnelId

/-- A call that has been made: when its answer is there, and what that will be. -/
structure Call (α : Type) where
  due : Nat
  answer : α

/-- What a program waits for. -/
inductive Wait where
  /-- Nothing: it has not started yet, or goes on at once. -/
  | nothing
  /-- A time in milliseconds. -/
  | time (due : Nat)
  | connectLock
  | tokenLock (cycle : CycleId)
  /-- The tunnel's connection to be down. -/
  | lost (tunnel : TunnelId)
  /-- The TLS context. -/
  | build
  deriving DecidableEq, Repr

/-- How far a program has come: to a point where it waits, to its end, or to a failure that nothing
can mend. -/
inductive Progress (P R : Type) where
  | wait (point : P)
  | done (result : R)
  | panic

/-- Registration of the instance and the certificate that is in store. -/
inductive LoadPoint where
  | register (generation : Nat) (call : Call (Except BackendError RegisterResponse))
      (deadline : Nat)
  | certificate (generation : Nat) (cycle : CycleId) (call : Call (Except CertificateError Unit))
  | reset (generation : Nat) (cycle : CycleId) (call : Call (Except CertificateError Unit))

def LoadPoint.wait : LoadPoint → Wait
  | register _ call deadline => .time (Nat.min call.due deadline)
  | certificate _ _ call => .time call.due
  | reset _ _ call => .time call.due

/-- The steps from a registration to a tunnel that has started. -/
inductive SetupStep where
  | start
  | issue (call : Call (Except CertificateError Issue))
  | harden (call : Call (Except CertificateError Unit))
  | pause (due : Nat)
  | build (answer : Except CertificateError Unit)
  | startTunnel (tunnel : TunnelId) (call : Call (Except TransportError Unit))
  /-- The tunnel came too late and is stopped. -/
  | discard (tunnel : TunnelId) (call : Call Unit)

/-- Setup for a load cycle. -/
structure SetupPoint where
  generation : Nat
  cycle : CycleId
  step : SetupStep

def SetupPoint.wait (p : SetupPoint) : Wait :=
  match p.step with
  | .start => .nothing
  | .issue call => .time call.due
  | .harden call => .time call.due
  | .pause due => .time due
  | .build _ => .build
  | .startTunnel _ call => .time call.due
  | .discard _ call => .time call.due

/-- A backend that was ready is taken down: its tunnel stops. -/
structure TeardownPoint where
  tunnel : TunnelId
  call : Call Unit

def TeardownPoint.wait (p : TeardownPoint) : Wait := .time p.call.due

/-- A token is looked up, or asked for. -/
inductive RefreshPoint where
  | lock
  | request (key : KeyId) (call : Call (Except BackendError Grant)) (deadline : Nat)

def RefreshPoint.wait (cycle : CycleId) : RefreshPoint → Wait
  | lock => .tokenLock cycle
  | request _ call deadline => .time (Nat.min call.due deadline)

/-- The steps of an attempt to connect. -/
inductive AttemptStep where
  | lock
  | refresh (point : RefreshPoint)
  | connect (call : Call (Except TransportError Bool))
  /-- The attempt was cancelled while the connection came up, which is undone. -/
  | undo (call : Call Unit)

/-- An attempt to connect a backend, on behalf of a guard or of somebody else. -/
structure Attempt where
  active : Active
  guarded : Bool
  step : AttemptStep

def Attempt.wait (a : Attempt) : Wait :=
  match a.step with
  | .lock => .connectLock
  | .refresh point => point.wait a.active.registration
  | .connect call => .time call.due
  | .undo call => .time call.due

/-- The attempt is given up as soon as it is cancelled. -/
def Attempt.heedsCancel (a : Attempt) : Bool :=
  a.guarded &&
    match a.step with
    | .lock => true
    | .refresh _ => true
    | .connect _ => false
    | .undo _ => false

/-- A tunnel is disconnected. -/
structure DisconnectPoint where
  tunnel : TunnelId
  call : Call Unit

def DisconnectPoint.wait (p : DisconnectPoint) : Wait := .time p.call.due

/-- A check of the certificate. -/
inductive CheckPoint where
  /-- No backend was ready, so one is loaded. -/
  | load (point : LoadPoint)
  | issue (cycle : CycleId) (expire : Option Instant) (checked : Instant)
      (call : Call (Except CertificateError Issue))
  | teardown (point : TeardownPoint)
  | settle (due : Nat)
  | reload (point : LoadPoint)

def CheckPoint.wait : CheckPoint → Wait
  | load point => point.wait
  | issue _ _ _ call => .time call.due
  | teardown point => point.wait
  | settle due => .time due
  | reload point => point.wait

/-- The task that checks the certificate every night. -/
inductive HandlerPoint where
  | start
  | sleep (due : Nat)
  | check (point : CheckPoint)

def HandlerPoint.wait : HandlerPoint → Wait
  | start => .nothing
  | sleep due => .time due
  | check point => point.wait

/-- The task that connects a backend again whenever its connection is lost. -/
inductive GuardPoint where
  | start
  | watch (tunnel : TunnelId)
  | sleep (due : Nat)
  | attempt (attempt : Attempt)

def GuardPoint.wait : GuardPoint → Wait
  | start => .nothing
  | watch tunnel => .lost tunnel
  | sleep due => .time due
  | attempt a => a.wait

def GuardPoint.heedsCancel : GuardPoint → Bool
  | start => false
  | watch _ => true
  | sleep _ => true
  | attempt a => a.heedsCancel

/-- What may be asked of the coordinator. -/
inductive Operation where
  | load
  | start
  | close
  | stop
  | connect
  | disconnect
  | request (caller : String)
  | check
  /-- A token for a load cycle that is still valid. -/
  | refresh (cycle : CycleId)
  /-- The token that is kept for a load cycle. -/
  | lookUp (cycle : CycleId)

/-- A task: an operation that was asked for by its number, work that was left to itself, or one of
the two background tasks. -/
inductive Task where
  | asked (entry : Nat) (operation : Operation)
  | load (entry : Nat) (point : LoadPoint)
  | teardown (entry : Nat) (point : TeardownPoint)
  | connect (entry : Nat) (attempt : Attempt)
  | disconnect (entry : Nat) (point : DisconnectPoint)
  | check (entry : Nat) (point : CheckPoint)
  | refresh (entry : Nat) (cycle : CycleId) (point : RefreshPoint)
  | lookUp (entry : Nat) (cycle : CycleId)
  | startLoad
  | detachedLoad (point : LoadPoint)
  | setup (point : SetupPoint)
  | autostart
  | autoconnect (attempt : Attempt)
  | handler (point : HandlerPoint)
  | guard (generation : Nat) (point : GuardPoint)

namespace Task

def wait : Task → Wait
  | asked _ _ => .nothing
  | load _ point => point.wait
  | teardown _ point => point.wait
  | connect _ attempt => attempt.wait
  | disconnect _ point => point.wait
  | check _ point => point.wait
  | refresh _ cycle point => point.wait cycle
  | lookUp _ cycle => .tokenLock cycle
  | startLoad => .nothing
  | detachedLoad point => point.wait
  | setup point => point.wait
  | autostart => .nothing
  | autoconnect attempt => attempt.wait
  | handler point => point.wait
  | guard _ point => point.wait

/-- The task goes on as soon as it is cancelled. -/
def heedsCancel : Task → Bool
  | handler .start => false
  | handler _ => true
  | guard _ point => point.heedsCancel
  | _ => false

end Task

end TunnelKeeper.Coordinator
