import TunnelKeeper.Coordinator.Teardown
import TunnelKeeper.Remote.Renewal

/-!
The check of the certificate: a missing backend is loaded, and a certificate that expires soon is
renewed, which takes the backend down and loads it again after a pause.
-/

namespace TunnelKeeper.Coordinator

namespace Check

/-- Goes on with loading a backend. -/
def loading (goOn : LoadPoint → CheckPoint) (outcome : CertificateCheck) :
    Turn LoadPoint Unit → Turn CheckPoint CertificateCheck
  | (w, .wait point) => (w, .wait (goOn point))
  | (w, .done ()) => (w, .done outcome)
  | (w, .panic) => (w, .panic)

/-- Goes on with taking the backend down. -/
def tearingDown : Turn TeardownPoint Unit → Turn CheckPoint CertificateCheck
  | (w, .wait point) => (w, .wait (.teardown point))
  | (w, .done ()) => (w, .wait (.settle (w.after w.config.renewalSettle)))
  | (w, .panic) => (w, .panic)

/-- Renews a certificate that is due. -/
def renew (c : CycleId) (expire : Option Instant) (w : World) : Turn CheckPoint CertificateCheck :=
  let checked := w.clock
  let (call, w) := (w.notice (.renewing expire)).callIssue c
  (w, .wait (.issue c expire checked call))

def start (w : World) : Turn CheckPoint CertificateCheck :=
  match w.state.active? with
  | none => loading .load .loadedBackend (Load.start w)
  | some active =>
    let expire := (w.certificate? active.registration).map (·.expireDate)
    match renewalDue? expire w.clock w.config.renewThreshold with
    | none => (w, .panic)
    | some false => (w, .done .notDue)
    | some true => renew active.registration expire w

/-- A renewal failed, which is worth a warning when the certificate expires soon. -/
def failed (expire : Option Instant) (checked : Instant) (e : CertificateError) (w : World) :
    Turn CheckPoint CertificateCheck :=
  match renewalUrgent? expire checked w.config.warnThreshold with
  | none => (w, .panic)
  | some true => (w.notice (.renewalFailed e), .done .renewalFailed)
  | some false => (w, .done .renewalFailed)

def resume : CheckPoint → World → Turn CheckPoint CertificateCheck
  | .load point, w => loading .load .loadedBackend (Load.resume point w)
  | .issue c expire checked call, w =>
    match call.answer with
    | .ok issue => tearingDown (Teardown.start false (w.issueArrived c issue))
    | .error e => failed expire checked e w
  | .teardown point, w => tearingDown (Teardown.resume point w)
  | .settle _, w => loading .reload .renewed (Load.start w)
  | .reload point, w => loading .reload .renewed (Load.resume point w)

end Check

end TunnelKeeper.Coordinator
