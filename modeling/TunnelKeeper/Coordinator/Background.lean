import TunnelKeeper.Coordinator.Check
import TunnelKeeper.Coordinator.Connect

/-!
The two background tasks. The handler checks the certificate every night, some time after midnight.
The guard watches the connection of one backend and connects it again whenever it is lost, after a
delay.
-/

namespace TunnelKeeper.Coordinator

/-! ### The nightly handler -/

namespace Handler

/-- The delay until the next check. It is undefined when the sum leaves the range of durations. -/
def delay? (w : World) (offset : Duration) : Option Duration := do
  (← w.clock.untilNextMidnight? w.zone).add? offset

/-- Sleeps until some time after the next midnight. -/
def night (w : World) : Turn HandlerPoint Unit :=
  let (draw, w) := w.draw
  match delay? w (w.config.renewalJitter.sample draw) with
  | none => (w, .panic)
  | some delay => (w, .wait (.sleep (w.after delay)))

/-- Goes on with the check of the certificate; the next night follows it. -/
def checking : Turn CheckPoint CertificateCheck → Turn HandlerPoint Unit
  | (w, .wait point) => (w, .wait (.check point))
  | (w, .done _) => night w
  | (w, .panic) => (w, .panic)

def resume (t : TaskId) (p : HandlerPoint) (w : World) : Turn HandlerPoint Unit :=
  match p with
  | .start => night w
  | .sleep _ => if w.isCancelled t then (w, .done ()) else checking (Check.start w)
  | .check point =>
    if w.isCancelled t then (w, .done ()) else checking (Check.resume point w)

end Handler

/-! ### The guard -/

namespace Guard

/-- The connection is down: the host hears of it, and the guard sleeps. -/
def lost (w : World) : Turn GuardPoint Unit :=
  let (draw, w) := ((w.notice .tunnelLost).signal .disconnected).draw
  (w, .wait (.sleep (w.after (w.config.reconnectJitter.sample draw))))

/-- Watches the connection as long as the backend is there. -/
def round (generation : Nat) (w : World) : Turn GuardPoint Unit :=
  match w.state.activeFor? generation with
  | none => (w, .done ())
  | some active =>
    if w.isConnected active.tunnel then (w, .wait (.watch active.tunnel)) else lost w

/-- Goes on with an attempt to connect; the next round follows it. -/
def attempting (t : TaskId) (generation : Nat) : Turn Attempt Result → Turn GuardPoint Unit
  | (w, .wait attempt) => (w, .wait (.attempt attempt))
  | (w, .done .notConnected) => (w, .done ())
  | (w, .done _) => if w.isCancelled t then (w, .done ()) else round generation w
  | (w, .panic) => (w, .panic)

def resume (t : TaskId) (generation : Nat) (p : GuardPoint) (w : World) : Turn GuardPoint Unit :=
  match p with
  | .start => round generation w
  | .watch _ => if w.isCancelled t then (w, .done ()) else lost w
  | .sleep _ =>
    if w.isCancelled t then (w, .done ())
    else attempting t generation (Connect.start t true w)
  | .attempt a => attempting t generation (Connect.resume t a w)

end Guard

end TunnelKeeper.Coordinator
