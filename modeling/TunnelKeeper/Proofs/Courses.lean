import TunnelKeeper.Coordinator.Move
import TunnelKeeper.Proofs.Certificates

/-!
What a load comes to that nothing disturbs. The answers that it is going to get settle where the
backend is in the end, and what happens until then; the host's part in it is how often its runtime
is not there, and whether it wants a connection at once.
-/

namespace TunnelKeeper.Coordinator

open World

/-! ### What a load finds -/

/-- What an answer to the registration says that this instance is. -/
def identify (response : RegisterResponse) : Except BackendError InstanceIdentity :=
  match response.validate with
  | .error e => .error (.protocol e)
  | .ok () => .ok ⟨response.domain, response.server, response.email⟩

namespace World

variable (w : World) (id : InstanceIdentity)

/-- What the registration comes to. -/
def registration : Except BackendError InstanceIdentity :=
  if w.scripts.register.next.1.delay ≤ w.config.backendTimeout.timerMillis then
    match w.scripts.register.next.1.answer with
    | .error e => .error e
    | .ok response => identify response
  else .error (.timeout w.config.backendTimeout)

/-- The certificate that is loaded from storage. -/
def found : Option Certificate :=
  match w.scripts.load.next.1.answer with
  | .error _ => none
  | .ok () => w.storage

/-- The certificate that is loaded, if it is for another domain. -/
def foreign : Option Certificate := w.found.filter (·.isForeign id.domain)

/-- The certificate that setup begins with. -/
def remaining : Option Certificate :=
  match w.foreign id, w.scripts.reset.next.1.answer with
  | some _, .ok () => none
  | _, _ => w.found

/-- When setup begins. -/
def setupTime : Nat :=
  w.now + w.scripts.register.next.1.delay + w.scripts.load.next.1.delay +
    match w.foreign id with
    | some _ => w.scripts.reset.next.1.delay
    | none => 0

/-- Setup finds a certificate that has not expired. -/
def findsValid : Bool :=
  (w.remaining id).any fun certificate =>
    decide (certificate.ValidAt (w.clockAfter (w.setupTime id)))

/-- There is a valid certificate, or one is issued. -/
def certifies : Bool := w.findsValid id || w.scripts.issue.next.1.answer.isOk

/-- With a certificate, a TLS context can be built. -/
def secures : Bool := w.certifies id && w.scripts.tls.next.1.answer.isOk

/-- With a TLS context, the tunnel starts. -/
def startsUp : Bool := w.secures id && w.scripts.start.next.1.answer.isOk

end World

/-! ### Courses -/

/-- How a host takes a load: how often its runtime is not there yet, and whether it wants a
connection at once. -/
structure Host where
  polls : Nat
  autostart : Bool

/-- Where a backend gets to, and what happens until then. -/
structure Course where
  phase : Phase CycleId TunnelId
  events : List Event

/-- What is said of an answer: nothing, unless it is an error. -/
def trouble {ε α : Type} (notice : ε → Notice) : Except ε α → List Event
  | .error e => [.notice (notice e)]
  | .ok _ => []

namespace Course

/-- Some events, and then this course. -/
def since (events : List Event) (c : Course) : Course := ⟨c.phase, events ++ c.events⟩

/-- Where a course leads, after what has happened, the latest first. -/
def upon (history : List Event) (c : Course) : Phase CycleId TunnelId × List Event :=
  (c.phase, c.events.reverse ++ history)

lemma upon_since (events history : List Event) (c : Course) :
    (c.since events).upon history = c.upon (events.reverse ++ history) := by
  unfold upon since
  rw [List.reverse_append, List.append_assoc]

variable (w : World) (entry : Nat) (id : InstanceIdentity) (host : Host)

/-- The tunnel has started, or could not. -/
def started : Course :=
  match w.scripts.start.next.1.answer with
  | .error e => ⟨.stalled w.cycles.length, [.notice (.cannotStart e)]⟩
  | .ok () => ⟨.ready w.cycles.length w.tunnels.length,
      [.notice (.backendUp id.relayServer w.config.relayPort), .signal .backendUp,
        .autostart host.autostart]⟩

/-- The TLS context is built, or could not be. -/
def built : Course :=
  match w.scripts.tls.next.1.answer with
  | .error e => ⟨.stalled w.cycles.length, [.notice (.cannotBuildTls e)]⟩
  | .ok () => (started w id host).since
      [.createTunnel w.tunnels.length ⟨id.relayServer, w.config.relayPort⟩,
        .startTunnel w.tunnels.length]

/-- The host is asked for its runtime until it is there. -/
def asked : Course :=
  (built w id host).since (List.replicate host.polls (.runtimeReady false) ++ [.runtimeReady true])

/-- The files are hardened, or could not be. -/
def hardened : Course :=
  (asked w id host).since (trouble .cannotHarden w.scripts.harden.next.1.answer)

/-- There is a certificate. -/
def certified : Course := (hardened w id host).since [.hardenFiles]

/-- A certificate has been issued, or could not be. -/
def issued : Course :=
  match w.scripts.issue.next.1.answer with
  | .error e => ⟨.stalled w.cycles.length, [.notice (.issuanceFailed e), .message .setupFailed]⟩
  | .ok _ => (certified w id host).since [.message .ready]

/-- Setup begins. -/
def setUp : Course :=
  if w.findsValid id then certified w id host
  else (issued w id host).since [.issueCertificate id.domain]

/-- The load is over, and the rest is left to setup. -/
def leftToSetup : Course := (setUp w id host).since [.done entry .ok]

/-- The authority has been reset, or could not be. -/
def reset : Course :=
  (leftToSetup w entry id host).since (trouble .cannotReset w.scripts.reset.next.1.answer)

/-- The domain of the certificate is looked at. -/
def examined : Course :=
  match w.foreign id with
  | some certificate => (reset w entry id host).since
      [.notice (.wrongCertificate certificate.commonName id.domain), .resetAuthority]
  | none => leftToSetup w entry id host

/-- The certificate has been loaded, or could not be. -/
def loaded : Course :=
  (examined w entry id host).since (trouble .cannotLoad w.scripts.load.next.1.answer)

/-- The instance has been registered, or could not be. -/
def registered : Course :=
  match w.registration with
  | .error e => ⟨.absent, [.notice (.cannotRegister (.backend e)), .done entry .ok]⟩
  | .ok id => (loaded w entry id host).since
      [.notice (.registered id), .createAuthority id.domain id.contact, .loadCertificate]

end Course

/-- The course of a load that is asked for now. -/
def World.course (w : World) (entry : Nat) (host : Host) : Course :=
  (Course.registered w entry host).since [.register]

/-! ### What becomes of a course -/

/-- The event is one that the user, the host, or the relay gets to know, or that changes the
authority's files. -/
def Event.isAct : Event → Bool
  | issueCertificate _ => true
  | resetAuthority => true
  | createTunnel _ _ => true
  | signal _ => true
  | message _ => true
  | _ => false

namespace World

variable (w : World)

/-- Where the backend is in the end: it is absent if it could not be registered, and it has stalled
if there is no certificate, no TLS context or no tunnel. -/
def outcome : Phase CycleId TunnelId :=
  match w.registration with
  | .error _ => .absent
  | .ok id =>
    if w.startsUp id then .ready w.cycles.length w.tunnels.length else .stalled w.cycles.length

/-- What setup does: a certificate is issued if none is valid, of which the user is told, a tunnel is
created if there is a TLS context, and the host hears of a backend that is up. -/
def setupActs (id : InstanceIdentity) : List Event :=
  (if w.findsValid id then []
    else [.issueCertificate id.domain,
      .message (if w.scripts.issue.next.1.answer.isOk then .ready else .setupFailed)]) ++
  (if w.secures id then
    [.createTunnel w.tunnels.length ⟨id.relayServer, w.config.relayPort⟩] else []) ++
  (if w.startsUp id then [.signal .backendUp] else [])

/-- What is done until then: the authority is reset if the certificate is for another domain, and
setup follows a registration. -/
def acts : List Event :=
  match w.registration with
  | .error _ => []
  | .ok id =>
    (if (w.foreign id).isSome then [.resetAuthority] else []) ++ w.setupActs id

end World

namespace Course

variable (w : World) (entry : Nat) (id : InstanceIdentity) (host : Host)

/-- The acts in a course. -/
def acts (c : Course) : List Event := c.events.filter Event.isAct

lemma acts_since (events : List Event) (c : Course) :
    (c.since events).acts = events.filter Event.isAct ++ c.acts := List.filter_append ..

lemma filter_trouble {ε α : Type} (notice : ε → Notice) (answer : Except ε α) :
    (trouble notice answer).filter Event.isAct = [] := by
  cases answer <;> rfl

lemma phase_built : (built w id host).phase =
    if w.scripts.tls.next.1.answer.isOk && w.scripts.start.next.1.answer.isOk then
      .ready w.cycles.length w.tunnels.length
    else .stalled w.cycles.length := by
  unfold built
  cases w.scripts.tls.next.1.answer with
  | error e => rfl
  | ok =>
    show (started w id host).phase = _
    unfold started
    cases w.scripts.start.next.1.answer <;> rfl

lemma phase_setUp : (setUp w id host).phase =
    if w.startsUp id then .ready w.cycles.length w.tunnels.length
    else .stalled w.cycles.length := by
  unfold setUp World.startsUp secures certifies
  cases w.findsValid id with
  | true => exact phase_built w id host
  | false =>
    show (issued w id host).phase = _
    unfold issued
    cases w.scripts.issue.next.1.answer with
    | error e => rfl
    | ok => exact phase_built w id host

lemma phase_course : (w.course entry host).phase = w.outcome := by
  show (registered w entry host).phase = _
  unfold registered outcome
  cases w.registration with
  | error e => rfl
  | ok id =>
    show (loaded w entry id host).phase = _
    have examined : (examined w entry id host).phase = (setUp w id host).phase := by
      unfold examined
      cases w.foreign id <;> rfl
    exact examined.trans (phase_setUp w id host)

lemma acts_started : (started w id host).acts =
    if w.scripts.start.next.1.answer.isOk then [.signal .backendUp] else [] := by
  unfold started
  cases w.scripts.start.next.1.answer <;> rfl

lemma acts_certified : (certified w id host).acts =
    if w.scripts.tls.next.1.answer.isOk then
      .createTunnel w.tunnels.length ⟨id.relayServer, w.config.relayPort⟩ ::
        (started w id host).acts
    else [] := by
  have polls : (List.replicate host.polls (Event.runtimeReady false) ++
      [Event.runtimeReady true]).filter Event.isAct = [] := by
    simp [Event.isAct]
  unfold certified hardened asked
  rw [acts_since, acts_since, acts_since, filter_trouble, polls]
  show (built w id host).acts = _
  unfold built
  cases w.scripts.tls.next.1.answer with
  | error e => rfl
  | ok => rfl

lemma acts_setUp : (setUp w id host).acts = w.setupActs id := by
  have certified : (certified w id host).acts =
      (if w.scripts.tls.next.1.answer.isOk then
        [.createTunnel w.tunnels.length ⟨id.relayServer, w.config.relayPort⟩] else []) ++
      (if w.scripts.tls.next.1.answer.isOk && w.scripts.start.next.1.answer.isOk then
        [.signal .backendUp] else []) := by
    rw [acts_certified, acts_started]
    cases w.scripts.tls.next.1.answer.isOk <;> rfl
  unfold setUp World.setupActs World.startsUp secures certifies
  cases w.findsValid id with
  | true => exact certified
  | false =>
    show Event.issueCertificate id.domain :: (issued w id host).acts = _
    unfold issued
    cases w.scripts.issue.next.1.answer with
    | error e => rfl
    | ok =>
      exact congrArg (fun acts => .issueCertificate id.domain :: .message .ready :: acts) certified

lemma acts_course : (w.course entry host).acts = w.acts := by
  show (registered w entry host).acts = _
  unfold registered World.acts
  cases w.registration with
  | error e => rfl
  | ok id =>
    show (loaded w entry id host).acts =
      (if (w.foreign id).isSome then [.resetAuthority] else []) ++ w.setupActs id
    have left : (leftToSetup w entry id host).acts = w.setupActs id := acts_setUp w id host
    unfold loaded examined
    rw [acts_since, filter_trouble, List.nil_append]
    cases w.foreign id with
    | none => exact left
    | some certificate =>
      unfold reset
      dsimp only
      rw [acts_since, acts_since, filter_trouble, left]
      rfl

end Course

end TunnelKeeper.Coordinator
