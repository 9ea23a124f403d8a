import TunnelKeeper.Coordinator.Load

/-!
Setup of a registered backend: a valid certificate, hardened files, the host's runtime, a TLS
context and a tunnel that has started. Without a certificate, a context or a tunnel it stalls, until
the next check of the certificate loads the backend again.
-/

namespace TunnelKeeper.Coordinator

namespace Setup

/-- Setup goes on at a step. -/
def goOn (p : SetupPoint) (step : SetupStep) : Progress SetupPoint Unit := .wait { p with step := step }

/-- Setup goes no further. -/
def stall (p : SetupPoint) (w : World) : Turn SetupPoint Unit :=
  ({ w with state := (w.state.setStalled p.generation).2 }, .done ())

def harden (p : SetupPoint) (w : World) : Turn SetupPoint Unit :=
  let (call, w) := w.callHarden
  (w, goOn p (.harden call))

/-- Looks whether the host's runtime is there. -/
def awaitRuntime (t : TaskId) (p : SetupPoint) (w : World) : Turn SetupPoint Unit :=
  match w.askRuntimeReady with
  | (true, w) =>
    let (answer, w) := w.callBuild t
    (w, goOn p (.build answer))
  | (false, w) =>
    if w.state.IsCurrent p.generation then
      (w, goOn p (.pause (w.after w.config.runtimePollInterval)))
    else (w, .done ())

/-- The backend is up. -/
def announce (p : SetupPoint) (w : World) : Turn SetupPoint Unit :=
  let w := w.notice (.backendUp (w.relay p.cycle) w.config.relayPort)
  match (w.signal .backendUp).askAutostart with
  | (true, w) => (w.spawn .autostart, .done ())
  | (false, w) => (w, .done ())

def issued (p : SetupPoint) (answer : Except CertificateError Issue) (w : World) :
    Turn SetupPoint Unit :=
  let w := match answer with
    | .ok issue => w.issueArrived p.cycle issue
    | .error _ => w
  if w.state.IsCurrent p.generation then
    match answer with
    | .ok _ => harden p (w.message .ready)
    | .error e => stall p ((w.notice (.issuanceFailed e)).message .setupFailed)
  else (w, .done ())

def started (p : SetupPoint) (n : TunnelId) (w : World) : Turn SetupPoint Unit :=
  let w := w.startArrived n
  match w.state.setReady p.generation n with
  | (true, state) => announce p { w with state := state }
  | (false, _) =>
    let (call, w) := w.callStop n
    (w, goOn p (.discard n call))

def resume (t : TaskId) (p : SetupPoint) (w : World) : Turn SetupPoint Unit :=
  match p.step with
  | .start =>
    if w.hasValidCertificate p.cycle then harden p w
    else
      let (call, w) := w.callIssue p.cycle
      (w, goOn p (.issue call))
  | .issue call => issued p call.answer w
  | .harden call =>
    awaitRuntime t p (match call.answer with
      | .ok () => w
      | .error e => w.notice (.cannotHarden e))
  | .pause _ => awaitRuntime t p w
  | .build (.error e) => stall p (w.notice (.cannotBuildTls e))
  | .build (.ok ()) =>
    let (n, w) := w.createTunnel p.cycle
    let (call, w) := w.callStart n
    (w, goOn p (.startTunnel n call))
  | .startTunnel n call =>
    match call.answer with
    | .ok () => started p n w
    | .error e => stall p (w.notice (.cannotStart e))
  | .discard n _ => (w.stopArrived n, .done ())

end Setup

end TunnelKeeper.Coordinator
