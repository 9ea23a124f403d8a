import TunnelKeeper.Coordinator.Calls

/-!
Loading a backend: the instance is registered, its certificate is loaded from storage, and one for
another domain is thrown away. Setup goes on from there by itself. Whatever was superseded meanwhile
changes nothing.
-/

namespace TunnelKeeper.Coordinator

/-- What a step of a program leaves: the world, and how far the program has come. -/
abbrev Turn (P R : Type) := World × Progress P R

namespace Load

/-- A load that came to nothing, unless it was superseded. -/
def fail (generation : Nat) (e : BackendError) (w : World) : Turn LoadPoint Unit :=
  let w := w.notice (.cannotRegister (.backend e))
  ({ w with state := w.state.abandon generation }, .done ())

/-- The registration stands: setup goes on by itself. -/
def complete (generation : Nat) (c : CycleId) (w : World) : Turn LoadPoint Unit :=
  match w.state.setLoading generation c with
  | (true, state) => ({ w with state := state }.spawn (.setup ⟨generation, c, .start⟩), .done ())
  | (false, _) => (w, .done ())

/-- An answer to the registration. -/
def registered (generation : Nat) (response : RegisterResponse) (w : World) :
    Turn LoadPoint Unit :=
  match response.validate with
  | .error e => fail generation (.protocol e) w
  | .ok () =>
    if w.state.IsCurrent generation then
      let identity : InstanceIdentity := ⟨response.domain, response.server, response.email⟩
      let (c, w) := (w.notice (.registered identity)).createAuthority identity
      let (call, w) := w.callLoad
      (w, .wait (.certificate generation c call))
    else (w, .done ())

/-- The stored certificate, if there is one, has been loaded. A certificate for another domain can
never become valid again. -/
def certificateLoaded (generation : Nat) (c : CycleId) (w : World) : Turn LoadPoint Unit :=
  if w.state.IsCurrent generation then
    match w.certificate? c with
    | none => complete generation c w
    | some certificate =>
      if certificate.commonName ≠ "" ∧ certificate.commonName ≠ w.domain c then
        let (call, w) :=
          (w.notice (.wrongCertificate certificate.commonName (w.domain c))).callReset
        (w, .wait (.reset generation c call))
      else complete generation c w
  else (w, .done ())

/-- Begins to load a backend, unless one is loading or ready. -/
def start (w : World) : Turn LoadPoint Unit :=
  match w.state.beginLoad with
  | (none, _) => (w, .done ())
  | (some generation, state) =>
    let w := { w with state := state }.startHandler
    let (call, w) := w.callRegister
    (w, .wait (.register generation call (w.after w.config.backendTimeout)))

def resume : LoadPoint → World → Turn LoadPoint Unit
  | .register generation call _, w =>
    if call.due ≤ w.now then
      match call.answer with
      | .ok response => registered generation response w
      | .error e => fail generation e w
    else fail generation (.timeout w.config.backendTimeout) w
  | .certificate generation c call, w =>
    match call.answer with
    | .ok () => certificateLoaded generation c (w.loadArrived c)
    | .error e => certificateLoaded generation c (w.notice (.cannotLoad e))
  | .reset generation c call, w =>
    let w := match call.answer with
      | .ok () => w.resetArrived c
      | .error e => w.notice (.cannotReset e)
    if w.state.IsCurrent generation then complete generation c w else (w, .done ())

end Load

end TunnelKeeper.Coordinator
