import TunnelKeeper.Coordinator.Load

/-!
Connecting a backend that is ready, and disconnecting it. Attempts to connect come one after the
other, each with a token that is still valid. An attempt of a guard ends where it is once the guard
is cancelled, and a connection that came up meanwhile is undone; any other attempt leaves a guard
behind.
-/

namespace TunnelKeeper.Coordinator

/-! ### Tokens -/

namespace Refresh

/-- A token is there, or it could not be had. -/
abbrev Answer := Except BackendError Token

/-- The lock of the token is given back. -/
def leave (t : TaskId) (c : CycleId) (answer : Answer) (w : World) : Turn RefreshPoint Answer :=
  (w.leaveTokenLock c t, .done answer)

/-- Looks up a token. -/
def start (t : TaskId) (c : CycleId) (w : World) : Turn RefreshPoint Answer :=
  (w.enterTokenLock c t, .wait .lock)

/-- The token that is kept, if it is still valid. -/
def kept? (c : CycleId) (w : World) : Option Token :=
  (w.cycle? c >>= (·.token)).filter fun token => decide (token.ValidAt w.clock)

/-- Keeps a token. -/
def keep (c : CycleId) (token : Token) (w : World) : World :=
  w.modifyCycle c fun cycle => { cycle with token := some token }

def resume (t : TaskId) (c : CycleId) : RefreshPoint → World → Turn RefreshPoint Answer
  | .lock, w =>
    match kept? c w with
    | some token => leave t c (.ok token) w
    | none =>
      let (key, call, w) := w.callToken
      (w, .wait (.request key call (w.after w.config.backendTimeout)))
  | .request key call _, w =>
    if call.due ≤ w.now then
      match w.tokenOf key call.answer with
      | .ok token => leave t c (.ok token) (keep c token w)
      | .error e => leave t c (.error e) w
    else leave t c (.error (.timeout w.config.backendTimeout)) w

end Refresh

/-! ### The token that is kept -/

namespace Lookup

/-- Waits until nobody uses the token. -/
def start (t : TaskId) (c : CycleId) (w : World) : Turn Unit (Option Token) :=
  (w.enterTokenLock c t, .wait ())

/-- The token that is kept, whether it is still valid or not. -/
def resume (t : TaskId) (c : CycleId) (w : World) : Turn Unit (Option Token) :=
  (w.leaveTokenLock c t, .done (w.cycle? c >>= (·.token)))

end Lookup

/-! ### Attempts to connect -/

namespace Connect

/-- The attempt is over: the next one may go on, and a guard watches the connection. -/
def finish (t : TaskId) (a : Attempt) (w : World) : Turn Attempt Result :=
  let w := w.leaveConnectLock t
  (if a.guarded then w else w.startGuard a.active.generation, .done .ok)

/-- The attempt failed. -/
def fail (t : TaskId) (a : Attempt) (e : RemoteError) (w : World) : Turn Attempt Result :=
  finish t a (w.notice (.connectionProblem e))

/-- Waits for other attempts to end, unless nothing is ready or all is well. -/
def start (t : TaskId) (guarded : Bool) (w : World) : Turn Attempt Result :=
  match w.state.active? with
  | none => (w, .done .notConnected)
  | some active =>
    if w.isConnected active.tunnel then (w, .done .ok)
    else (w.enterConnectLock t, .wait ⟨active, guarded, .lock⟩)

/-- A token is there: the tunnel is connected, unless the backend has been superseded. -/
def connect (t : TaskId) (a : Attempt) (token : Token) (w : World) : Turn Attempt Result :=
  if w.state.IsCurrent a.active.generation then
    let (call, w) := w.callConnect a.active.tunnel token
    (w, .wait { a with step := .connect call })
  else finish t a w

/-- Goes on with looking up a token. -/
def refreshed (t : TaskId) (a : Attempt) : Turn RefreshPoint Refresh.Answer → Turn Attempt Result
  | (w, .wait point) => (w, .wait { a with step := .refresh point })
  | (w, .done (.ok token)) => connect t a token w
  | (w, .done (.error e)) => fail t a (.backend e) w
  | (w, .panic) => (w, .panic)

/-- The tunnel is connected. -/
def connected (t : TaskId) (a : Attempt) (w : World) : Turn Attempt Result :=
  if w.state.IsCurrent a.active.generation then
    finish t a ((w.notice .connected).signal .connected)
  else finish t a w

def resume (t : TaskId) (a : Attempt) (w : World) : Turn Attempt Result :=
  let cancelled := a.guarded && w.isCancelled t
  match a.step with
  | .lock =>
    if cancelled then (w.leaveConnectLock t, .done .ok)
    else if w.isConnected a.active.tunnel then finish t a w
    else refreshed t a (Refresh.start t a.active.registration w)
  | .refresh point =>
    if cancelled then finish t a (w.leaveTokenLock a.active.registration t)
    else refreshed t a (Refresh.resume t a.active.registration point w)
  | .connect call =>
    match call.answer with
    | .error e => fail t a (.transport e) w
    | .ok lasting =>
      let w := w.connectArrived a.active.tunnel lasting
      if cancelled then
        let (call, w) := w.callDisconnect a.active.tunnel
        (w, .wait { a with step := .undo call })
      else connected t a w
  | .undo _ => finish t a (w.disconnectArrived a.active.tunnel)

/-- A caller asks through the relay to be let in. -/
def request (t : TaskId) (caller : String) (w : World) : Turn Attempt Result :=
  match w.state.active? with
  | none => (w, .done .notConnected)
  | some active =>
    if w.isConnected active.tunnel then (w, .done .ok)
    else start t false (w.notice (.connectionRequested caller))

end Connect

/-! ### Disconnecting -/

namespace Disconnect

/-- The guard is cancelled, and a connection that is up is taken down. -/
def start (w : World) : Turn DisconnectPoint Result :=
  match w.state.active? with
  | none => (w, .done .notConnected)
  | some active =>
    let w := w.cancelGuard
    if w.isConnected active.tunnel then
      let (call, w) := w.callDisconnect active.tunnel
      (w, .wait ⟨active.tunnel, call⟩)
    else (w, .done .ok)

def resume (p : DisconnectPoint) (w : World) : Turn DisconnectPoint Result :=
  (((w.disconnectArrived p.tunnel).notice .disconnected).signal .disconnected, .done .ok)

end Disconnect

end TunnelKeeper.Coordinator
