import TunnelKeeper.Coordinator.Load

/-!
Taking a backend down, whatever it has come to. The background tasks are cancelled, a tunnel is
stopped, and the host hears of it if there was a registration.
-/

namespace TunnelKeeper.Coordinator

namespace Teardown

def announce (w : World) : Turn TeardownPoint Unit :=
  ((w.notice .backendDown).signal .backendDown, .done ())

/-- Takes the backend away. A renewal, which loads it again, keeps the nightly handler. -/
def start (withHandler : Bool) (w : World) : Turn TeardownPoint Unit :=
  let (previous, state) := w.state.take
  let w := { w with state := state }.cancelGuard
  let w := if withHandler then w.cancelHandler else w
  match previous with
  | .ready _ n =>
    let (call, w) := w.callStop n
    (w, .wait ⟨n, call⟩)
  | .loading _ => announce w
  | .stalled _ => announce w
  | .registering => (w, .done ())
  | .absent => (w, .done ())

/-- The tunnel has stopped. -/
def resume (p : TeardownPoint) (w : World) : Turn TeardownPoint Unit :=
  announce (w.stopArrived p.tunnel)

end Teardown

end TunnelKeeper.Coordinator
