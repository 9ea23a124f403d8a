import TunnelKeeper.Proofs.Courses
import TunnelKeeper.Proofs.Points

/-!
How a load takes its course: from the registration by way of the certificate to the setup that it
leaves the rest to. At every stage the answers that are still to come are those that the load began
with, and every turn leads to the next stage, or to the end of the course.
-/

namespace TunnelKeeper.Coordinator

open World Cooperative

/-! ### Affairs -/

/-- What a load deals with. -/
structure Affairs where
  fixtures : Fixtures
  state : State
  cycles : List LoadCycle
  tunnels : List Tunnel
  storage : Option Certificate
  scripts : Scripts
  history : List Event

/-- What setup is going to be answered. -/
def Scripts.setup (s : Scripts) : Script (Except CertificateError Issue) ×
    Script (Except CertificateError Unit) × Script (Except CertificateError Unit) ×
      Script (Except TransportError Unit) :=
  (s.issue, s.harden, s.tls, s.start)

namespace World

def affairs (w : World) : Affairs :=
  ⟨w.fixtures, w.state, w.cycles, w.tunnels, w.storage, w.scripts, w.history⟩

variable {v w : World} {t : TaskId}

lemma affairs_advance (t : TaskId) (task : Task) (w : World) :
    (advance t task w).affairs = (Task.resume t task w).1.affairs := by
  rw [advance_eq]
  rfl

lemma affairs_startHandler (w : World) : w.startHandler.affairs = w.affairs := by
  unfold startHandler
  split <;> rfl

lemma cycle?_of_last {cycles : List LoadCycle} {cycle : LoadCycle}
    (last : v.cycles = cycles ++ [cycle]) : v.cycle? cycles.length = some cycle := by
  rw [cycle?, last, List.getElem?_concat_length]

lemma certificate?_of_last {cycles : List LoadCycle} {cycle : LoadCycle}
    (last : v.cycles = cycles ++ [cycle]) :
    v.certificate? cycles.length = cycle.certificate := by
  rw [certificate?, cycle?_of_last last]
  rfl

lemma domain_of_last {cycles : List LoadCycle} {cycle : LoadCycle}
    (last : v.cycles = cycles ++ [cycle]) : v.domain cycles.length = cycle.identity.domain := by
  rw [World.domain, cycle?_of_last last]
  rfl

lemma relay_of_last {cycles : List LoadCycle} {cycle : LoadCycle}
    (last : v.cycles = cycles ++ [cycle]) :
    v.relay cycles.length = cycle.identity.relayServer := by
  rw [World.relay, cycle?_of_last last]
  rfl

lemma modify_last {cycles : List LoadCycle} {cycle : LoadCycle} (f : LoadCycle → LoadCycle) :
    (cycles ++ [cycle]).modify cycles.length f = cycles ++ [f cycle] := by
  induction cycles with
  | nil => rfl
  | cons first rest ih => exact congrArg (List.cons first) ih

end World

/-! ### The stages of a load -/

/-- From here on, the course of a load that began in a world is this. -/
def Tells (w : World) (entry : Nat) (x : Affairs) (rest : Host → Course) : Prop :=
  ∀ host, ∃ polls, (w.course entry ⟨polls, host.autostart⟩).upon w.history =
    (rest host).upon x.history

/-- Some events have followed, after which the host need not be asked as often. -/
lemma Tells.polled {w : World} {entry : Nat} {x y : Affairs} {rest rest' : Host → Course}
    (tells : Tells w entry x rest) (events : List Event)
    (same : ∀ host, ∃ polls, rest ⟨polls, host.autostart⟩ = (rest' host).since events)
    (history : y.history = events.reverse ++ x.history) : Tells w entry y rest' := by
  intro host
  obtain ⟨polls, same⟩ := same host
  obtain ⟨polls', before⟩ := tells ⟨polls, host.autostart⟩
  refine ⟨polls', before.trans ?_⟩
  rw [same, Course.upon_since, history]

lemma Tells.since {w : World} {entry : Nat} {x y : Affairs} {rest rest' : Host → Course}
    (tells : Tells w entry x rest) (events : List Event)
    (same : ∀ host, rest host = (rest' host).since events)
    (history : y.history = events.reverse ++ x.history) : Tells w entry y rest' :=
  tells.polled events (fun host => ⟨host.polls, same host⟩) history

/-- The load has taken its course. -/
structure Ended (w : World) (entry : Nat) (x : Affairs) : Prop where
  state : x.state = ⟨w.state.generation + 1, w.outcome⟩
  history : ∃ host, x.history = (w.course entry host).events.reverse ++ w.history

lemma Tells.ended {w : World} {entry : Nat} {x y : Affairs} {rest : Host → Course}
    {phase : Phase CycleId TunnelId} {events : List Event} (tells : Tells w entry x rest)
    (host : Host) (last : rest host = ⟨phase, events⟩)
    (state : y.state = ⟨w.state.generation + 1, phase⟩)
    (history : y.history = events.reverse ++ x.history) : Ended w entry y := by
  obtain ⟨polls, told⟩ := tells host
  rw [last] at told
  have phase : (w.course entry ⟨polls, host.autostart⟩).phase = phase := congrArg Prod.fst told
  refine ⟨?_, ⟨polls, host.autostart⟩, ?_⟩
  · rw [state, ← phase, Course.phase_course]
  · rw [history]
    exact (congrArg Prod.snd told).symm

/-- The instance is being registered by a load that began in a world. -/
structure Registering (w : World) (x : Affairs) : Prop where
  fixtures : x.fixtures = w.fixtures
  state : x.state = ⟨w.state.generation + 1, .registering⟩
  tunnels : x.tunnels = w.tunnels
  setup : x.scripts.setup = w.scripts.setup

lemma Registering.keep {w : World} {x y : Affairs} (h : Registering w x)
    (same : (y.fixtures, y.state, y.tunnels, y.scripts.setup) =
      (x.fixtures, x.state, x.tunnels, x.scripts.setup)) : Registering w y := by
  simp only [Prod.mk.injEq] at same
  obtain ⟨fixtures, state, tunnels, setup⟩ := same
  exact ⟨fixtures.trans h.fixtures, state.trans h.state, tunnels.trans h.tunnels,
    setup.trans h.setup⟩

lemma Registering.current {w v : World} (h : Registering w v.affairs) :
    v.state.IsCurrent (w.state.generation + 1) := congrArg BackendState.generation h.state

/-- The backend of an identity is being set up, for the load that began in a world. -/
structure SettingUp (w : World) (id : InstanceIdentity) (x : Affairs) : Prop where
  fixtures : x.fixtures = w.fixtures
  state : x.state = ⟨w.state.generation + 1, .loading w.cycles.length⟩
  cycles : ∃ certificate lock token, x.cycles = w.cycles ++ [⟨id, certificate, lock, token⟩]

lemma SettingUp.current {w v : World} {id : InstanceIdentity} (h : SettingUp w id v.affairs) :
    v.state.IsCurrent (w.state.generation + 1) := congrArg BackendState.generation h.state

/-- It is being set up, and has no tunnel yet. -/
structure Preparing (w : World) (id : InstanceIdentity) (x : Affairs) : Prop
    extends SettingUp w id x where
  tunnels : x.tunnels = w.tunnels
  start : x.scripts.start = w.scripts.start

lemma Preparing.keep {w : World} {id : InstanceIdentity} {x y : Affairs} (h : Preparing w id x)
    (same : (y.fixtures, y.state, y.cycles, y.tunnels, y.scripts.start) =
      (x.fixtures, x.state, x.cycles, x.tunnels, x.scripts.start)) : Preparing w id y := by
  simp only [Prod.mk.injEq] at same
  obtain ⟨fixtures, state, cycles, tunnels, start⟩ := same
  refine ⟨⟨fixtures.trans h.fixtures, state.trans h.state, ?_⟩, tunnels.trans h.tunnels,
    start.trans h.start⟩
  rw [cycles]
  exact h.cycles

/-- How far the load has come that began in a world, and what it still deals with. -/
inductive Stage (w : World) (entry : Nat) (x : Affairs) (now : Nat) : Task → Prop
  | register {call : Call (Except BackendError RegisterResponse)} {deadline : Nat}
      (registering : Registering w x) (cycles : x.cycles = w.cycles)
      (storage : x.storage = w.storage) (load : x.scripts.load = w.scripts.load)
      (reset : x.scripts.reset = w.scripts.reset)
      (due : call.due = w.now + w.scripts.register.next.1.delay)
      (answer : call.answer = w.scripts.register.next.1.answer)
      (late : deadline = w.now + w.config.backendTimeout.timerMillis)
      (tells : Tells w entry x (Course.registered w entry)) :
      Stage w entry x now (.load entry (.register (w.state.generation + 1) call deadline))
  | certificate {id : InstanceIdentity} {call : Call (Except CertificateError Unit)}
      (registering : Registering w x) (cycles : x.cycles = w.cycles ++ [{ identity := id }])
      (storage : x.storage = w.storage) (reset : x.scripts.reset = w.scripts.reset)
      (due : call.due = w.now + w.scripts.register.next.1.delay + w.scripts.load.next.1.delay)
      (answer : call.answer = w.scripts.load.next.1.answer)
      (tells : Tells w entry x (Course.loaded w entry id)) :
      Stage w entry x now
        (.load entry (.certificate (w.state.generation + 1) w.cycles.length call))
  | reset {id : InstanceIdentity} {call : Call (Except CertificateError Unit)}
      (registering : Registering w x)
      (cycles : x.cycles = w.cycles ++ [{ identity := id, certificate := w.found }])
      (foreign : (w.foreign id).isSome) (due : call.due = w.setupTime id)
      (answer : call.answer = w.scripts.reset.next.1.answer)
      (tells : Tells w entry x (Course.reset w entry id)) :
      Stage w entry x now (.load entry (.reset (w.state.generation + 1) w.cycles.length call))
  | start {id : InstanceIdentity} (preparing : Preparing w id x)
      (cycles : x.cycles = w.cycles ++ [{ identity := id, certificate := w.remaining id }])
      (setup : x.scripts.setup = w.scripts.setup) (time : now = w.setupTime id)
      (tells : Tells w entry x (Course.setUp w id)) :
      Stage w entry x now (.setup ⟨w.state.generation + 1, w.cycles.length, .start⟩)
  | issue {id : InstanceIdentity} {call : Call (Except CertificateError Issue)}
      (preparing : Preparing w id x) (harden : x.scripts.harden = w.scripts.harden)
      (tls : x.scripts.tls = w.scripts.tls)
      (answer : call.answer = w.scripts.issue.next.1.answer)
      (tells : Tells w entry x (Course.issued w id)) :
      Stage w entry x now (.setup ⟨w.state.generation + 1, w.cycles.length, .issue call⟩)
  | harden {id : InstanceIdentity} {call : Call (Except CertificateError Unit)}
      (preparing : Preparing w id x) (tls : x.scripts.tls = w.scripts.tls)
      (answer : call.answer = w.scripts.harden.next.1.answer)
      (tells : Tells w entry x (Course.hardened w id)) :
      Stage w entry x now (.setup ⟨w.state.generation + 1, w.cycles.length, .harden call⟩)
  | pause {id : InstanceIdentity} {due : Nat}
      (preparing : Preparing w id x) (tls : x.scripts.tls = w.scripts.tls)
      (tells : Tells w entry x (Course.asked w id)) :
      Stage w entry x now (.setup ⟨w.state.generation + 1, w.cycles.length, .pause due⟩)
  | build {id : InstanceIdentity} {answer : Except CertificateError Unit}
      (preparing : Preparing w id x) (answered : answer = w.scripts.tls.next.1.answer)
      (tells : Tells w entry x (Course.built w id)) :
      Stage w entry x now (.setup ⟨w.state.generation + 1, w.cycles.length, .build answer⟩)
  | startTunnel {id : InstanceIdentity} {call : Call (Except TransportError Unit)}
      (settingUp : SettingUp w id x) (answer : call.answer = w.scripts.start.next.1.answer)
      (tells : Tells w entry x (Course.started w id)) :
      Stage w entry x now
        (.setup ⟨w.state.generation + 1, w.cycles.length, .startTunnel w.tunnels.length call⟩)

/-- How many points are left at most until the load has taken its course, once the host's runtime
is there. -/
def Task.left : Task → Nat
  | load _ p => p.rank + 6
  | setup p => p.step.rank
  | _ => 0

/-- A load is at a stage of its course with a task. -/
structure AtStage (w : World) (entry : Nat) (v : World) (t : TaskId) (task : Task) : Prop where
  here : v.schedule.point? t = some task
  stage : Stage w entry v.affairs v.now task
  early : ∀ due, task.wait = .time due → v.now ≤ due

/-! ### One turn -/

/-- After a turn of a task with so many points left, the load has taken its course, or it has come
closer to that, with the same task or another. -/
def Follows (w : World) (entry : Nat) (t : TaskId) (v : World) (left : Nat) :
    World × Option Task → Prop
  | (u, some task) => Stage w entry u.affairs u.now task ∧
      (∀ due, task.wait = .time due → u.now ≤ due) ∧ (v.runtimeReady = true → task.left < left)
  | (u, none) => Ended w entry u.affairs ∨ ∃ t' task, t' ≠ t ∧ AtStage w entry u t' task ∧
      (v.runtimeReady = true → task.left < left)

namespace Setup

variable {w u v : World} {entry n : Nat} {id : InstanceIdentity} {t : TaskId} {step : SetupStep}
  {x : Affairs} {rest : Host → Course}

lemma follows_stall {events : List Event} (settingUp : SettingUp w id x) (same : v.state = x.state)
    (tells : Tells w entry x rest) (host : Host)
    (last : rest host = ⟨.stalled w.cycles.length, events⟩)
    (history : v.history = events.reverse ++ x.history) :
    Follows w entry t u n (Task.goOn .setup
      (stall ⟨w.state.generation + 1, w.cycles.length, step⟩ v)) := by
  refine Or.inl (tells.ended host last ?_ history)
  show (v.state.setStalled _).2 = _
  rw [same, settingUp.state, BackendState.setStalled_loading]

/-- The host's runtime is there, or setup comes back later. -/
lemma follows_awaitRuntime (preparing : Preparing w id v.affairs)
    (tls : v.scripts.tls = w.scripts.tls) (tells : Tells w entry v.affairs (Course.asked w id))
    (same : v.runtimeReady = u.runtimeReady) :
    Follows w entry t u 3 (Task.goOn .setup
      (awaitRuntime t ⟨w.state.generation + 1, w.cycles.length, step⟩ v)) := by
  have current : v.state.IsCurrent (w.state.generation + 1) := preparing.current
  unfold awaitRuntime askRuntimeReady
  cases ready : v.runtimeReady with
  | true =>
    have answered : v.scripts.tls.next.1.answer = w.scripts.tls.next.1.answer := by rw [tls]
    have polled (host : Host) : Course.asked w id ⟨0, host.autostart⟩ =
        (Course.built w id host).since [.runtimeReady true] := rfl
    exact And.intro (.build (preparing.keep rfl) answered
      (tells.polled [.runtimeReady true] (fun host => ⟨0, polled host⟩) rfl))
        ⟨nofun, fun _ => Nat.lt_succ_self 2⟩
  | false =>
    have current : (v.record (.runtimeReady false)).state.IsCurrent (w.state.generation + 1) :=
      current
    have polled (host : Host) : Course.asked w id ⟨host.polls + 1, host.autostart⟩ =
        (Course.asked w id host).since [.runtimeReady false] := rfl
    dsimp only
    rw [if_pos current]
    refine And.intro (.pause (preparing.keep rfl) tls
      (tells.polled [.runtimeReady false] (fun host => ⟨_, polled host⟩) rfl)) ⟨?_, ?_⟩
    · rintro _ ⟨⟩
      exact Nat.le_add_right ..
    · intro there
      cases there.symm.trans (same.symm.trans ready)

lemma follows_harden (preparing : Preparing w id v.affairs)
    (harden : v.scripts.harden = w.scripts.harden) (tls : v.scripts.tls = w.scripts.tls)
    (tells : Tells w entry v.affairs (Course.certified w id)) (more : 3 < n) :
    Follows w entry t u n (Task.goOn .setup
      (Setup.harden ⟨w.state.generation + 1, w.cycles.length, step⟩ v)) := by
  have answer : v.scripts.harden.next.1.answer = w.scripts.harden.next.1.answer := by rw [harden]
  refine And.intro (.harden (preparing.keep rfl) tls answer
    (tells.since [.hardenFiles] (fun _ => rfl) rfl)) ⟨?_, fun _ => more⟩
  rintro _ ⟨⟩
  exact Nat.le_add_right ..

/-- When the backend is up, the log and the host are told, and the host is asked for its wish. -/
lemma announce_cases (p : SetupPoint) (v : World) : ∃ u, announce p v = (u, .done ()) ∧
    u.state = v.state ∧ u.history = .autostart v.autostart :: .signal .backendUp ::
      .notice (.backendUp (v.relay p.cycle) v.config.relayPort) :: v.history := by
  unfold announce askAutostart
  dsimp only
  rw [show ((v.notice _).signal .backendUp).autostart = v.autostart from rfl]
  cases v.autostart with
  | true => exact ⟨_, rfl, rfl, rfl⟩
  | false => exact ⟨_, rfl, rfl, rfl⟩

lemma follows_started (settingUp : SettingUp w id v.affairs)
    (tells : Tells w entry v.affairs (Course.started w id))
    (ok : w.scripts.start.next.1.answer = .ok ()) :
    Follows w entry t u n (Task.goOn .setup
      (started ⟨w.state.generation + 1, w.cycles.length, step⟩ w.tunnels.length v)) := by
  obtain ⟨certificate, lock, token, last⟩ := settingUp.cycles
  have relay : v.relay w.cycles.length = id.relayServer := relay_of_last last
  have config : v.config = w.config := congrArg Fixtures.config settingUp.fixtures
  have ready : (v.startArrived w.tunnels.length).state.setReady (w.state.generation + 1)
      w.tunnels.length =
        (true, ⟨w.state.generation + 1, .ready w.cycles.length w.tunnels.length⟩) := by
    show v.state.setReady _ _ = _
    rw [show v.state = _ from settingUp.state, BackendState.setReady_loading]
  have course : Course.started w id ⟨0, v.autostart⟩ =
      ⟨.ready w.cycles.length w.tunnels.length,
        [.notice (.backendUp id.relayServer w.config.relayPort), .signal .backendUp,
          .autostart v.autostart]⟩ := by
    rw [Course.started, ok]
  unfold started
  dsimp only
  rw [ready]
  obtain ⟨c, announced, state, history⟩ := announce_cases
    ⟨w.state.generation + 1, w.cycles.length, step⟩ { v.startArrived w.tunnels.length with
      state := ⟨w.state.generation + 1, .ready w.cycles.length w.tunnels.length⟩ }
  dsimp only
  rw [announced]
  refine Or.inl (tells.ended ⟨0, v.autostart⟩ course state ?_)
  rw [← relay, ← config]
  exact history

lemma follows_start (preparing : Preparing w id v.affairs)
    (cycles : v.cycles = w.cycles ++ [{ identity := id, certificate := w.remaining id }])
    (setup : v.scripts.setup = w.scripts.setup) (time : v.now = w.setupTime id)
    (tells : Tells w entry v.affairs (Course.setUp w id)) :
    Follows w entry t u 5 (Task.goOn .setup
      (resume t ⟨w.state.generation + 1, w.cycles.length, .start⟩ v)) := by
  have certificate : v.certificate? w.cycles.length = w.remaining id := certificate?_of_last cycles
  have domain : v.domain w.cycles.length = id.domain := domain_of_last cycles
  have clock : v.clock = w.clockAfter (w.setupTime id) := by
    rw [World.clock, clockAfter_congr preparing.fixtures, time]
  have valid : v.hasValidCertificate w.cycles.length = w.findsValid id := by
    rw [hasValidCertificate, certificate, clock, findsValid]
  have issue : v.scripts.issue = w.scripts.issue := congrArg Prod.fst setup
  have harden : v.scripts.harden = w.scripts.harden := congrArg (·.2.1) setup
  have tls : v.scripts.tls = w.scripts.tls := congrArg (·.2.2.1) setup
  unfold resume
  dsimp only
  rw [valid]
  cases found : w.findsValid id with
  | true =>
    have same (host : Host) : Course.setUp w id host = (Course.certified w id host).since [] :=
      if_pos found
    exact follows_harden preparing harden tls (tells.since [] same rfl) (Nat.lt_of_sub_eq_succ rfl)
  | false =>
    have same (host : Host) : Course.setUp w id host =
        (Course.issued w id host).since [.issueCertificate id.domain] := by
      rw [Course.setUp, found]
      rfl
    have answer : v.scripts.issue.next.1.answer = w.scripts.issue.next.1.answer := by rw [issue]
    refine And.intro (.issue (preparing.keep rfl) harden tls answer
      (tells.since [.issueCertificate id.domain] same ?_)) ⟨?_, fun _ => Nat.lt_succ_self 4⟩
    · show Event.issueCertificate (v.domain w.cycles.length) :: v.history = _
      rw [domain]
      rfl
    · rintro _ ⟨⟩
      exact Nat.le_add_right ..

lemma follows_issued (preparing : Preparing w id v.affairs)
    (harden : v.scripts.harden = w.scripts.harden) (tls : v.scripts.tls = w.scripts.tls)
    (tells : Tells w entry v.affairs (Course.issued w id)) :
    Follows w entry t u 4 (Task.goOn .setup
      (issued ⟨w.state.generation + 1, w.cycles.length, step⟩ w.scripts.issue.next.1.answer v)) := by
  have current : v.state.IsCurrent (w.state.generation + 1) := preparing.current
  unfold issued
  cases issued : w.scripts.issue.next.1.answer with
  | error e =>
    have last (host : Host) : Course.issued w id host = ⟨.stalled w.cycles.length,
        [.notice (.issuanceFailed e), .message .setupFailed]⟩ := by
      rw [Course.issued, issued]
    dsimp only
    rw [if_pos current]
    exact follows_stall preparing.toSettingUp rfl tells ⟨0, false⟩ (last _) rfl
  | ok issue =>
    have same (host : Host) : Course.issued w id host =
        (Course.certified w id host).since [.message .ready] := by
      rw [Course.issued, issued]
    have current : (v.issueArrived w.cycles.length issue).state.IsCurrent
        (w.state.generation + 1) := current
    obtain ⟨⟨fixtures, state, ⟨certificate, lock, token, last⟩⟩, tunnels, start⟩ := preparing
    have renewed : (v.issueArrived w.cycles.length issue).cycles =
        w.cycles ++ [⟨id, some (v.issuedNow w.cycles.length issue), lock, token⟩] := by
      show v.cycles.modify w.cycles.length _ = _
      rw [show v.cycles = w.cycles ++ [⟨id, certificate, lock, token⟩] from last, modify_last]
    dsimp only
    rw [if_pos current]
    exact follows_harden ⟨⟨fixtures, state, ⟨_, _, _, renewed⟩⟩, tunnels, start⟩ harden tls
      (tells.since [.message .ready] same rfl) (Nat.lt_succ_self 3)

lemma follows_built (preparing : Preparing w id v.affairs)
    (tells : Tells w entry v.affairs (Course.built w id))
    (ok : w.scripts.tls.next.1.answer = .ok ()) :
    Follows w entry t u 2 (Task.goOn .setup
      (resume t ⟨w.state.generation + 1, w.cycles.length, .build (.ok ())⟩ v)) := by
  have same (host : Host) : Course.built w id host = (Course.started w id host).since
      [.createTunnel w.tunnels.length ⟨id.relayServer, w.config.relayPort⟩,
        .startTunnel w.tunnels.length] := by
    rw [Course.built, ok]
  obtain ⟨⟨fixtures, state, ⟨certificate, lock, token, last⟩⟩, tunnels, start⟩ := preparing
  have start : v.scripts.start = w.scripts.start := start
  have relay : v.relay w.cycles.length = id.relayServer := relay_of_last last
  have config : v.config = w.config := congrArg Fixtures.config fixtures
  have length : v.tunnels.length = w.tunnels.length := congrArg List.length tunnels
  have answer : v.scripts.start.next.1.answer = w.scripts.start.next.1.answer := by rw [start]
  unfold resume createTunnel callStart
  dsimp only
  rw [relay, config, length]
  refine And.intro (.startTunnel ⟨fixtures, state, ⟨certificate, lock, token, last⟩⟩ answer
    (tells.since _ same rfl)) ⟨?_, fun _ => Nat.lt_succ_self 1⟩
  rintro _ ⟨⟩
  exact Nat.le_add_right ..

lemma follows_resume {p : SetupPoint} (stage : Stage w entry v.affairs v.now (.setup p)) :
    Follows w entry t v p.step.rank (Task.goOn .setup (resume t p v)) := by
  cases stage with
  | start preparing cycles setup time tells => exact follows_start preparing cycles setup time tells
  | issue preparing harden tls answer tells =>
    unfold resume
    dsimp only
    rw [answer]
    exact follows_issued preparing harden tls tells
  | @harden id call preparing tls answer tells =>
    unfold resume
    dsimp only
    rw [answer]
    cases hardened : w.scripts.harden.next.1.answer with
    | error e =>
      have same (host : Host) : Course.hardened w id host =
          (Course.asked w id host).since [.notice (.cannotHarden e)] := by
        rw [Course.hardened, hardened]
        rfl
      exact follows_awaitRuntime (preparing.keep rfl) tls
        (tells.since [.notice (.cannotHarden e)] same rfl) rfl
    | ok =>
      have same (host : Host) : Course.hardened w id host = (Course.asked w id host).since [] := by
        rw [Course.hardened, hardened]
        rfl
      exact follows_awaitRuntime preparing tls (tells.since [] same rfl) rfl
  | pause preparing tls tells => exact follows_awaitRuntime preparing tls tells rfl
  | @build id answer preparing answered tells =>
    subst answered
    cases built : w.scripts.tls.next.1.answer with
    | error e =>
      have last (host : Host) : Course.built w id host = ⟨.stalled w.cycles.length,
          [.notice (.cannotBuildTls e)]⟩ := by
        rw [Course.built, built]
      exact follows_stall preparing.toSettingUp rfl tells ⟨0, false⟩ (last _) rfl
    | ok => exact follows_built preparing tells built
  | @startTunnel id call settingUp answer tells =>
    unfold resume
    dsimp only
    rw [answer]
    cases started : w.scripts.start.next.1.answer with
    | error e =>
      have last (host : Host) : Course.started w id host = ⟨.stalled w.cycles.length,
          [.notice (.cannotStart e)]⟩ := by
        rw [Course.started, started]
      exact follows_stall settingUp rfl tells ⟨0, false⟩ (last _) rfl
    | ok => exact follows_started settingUp tells started

end Setup

namespace Load

variable {w u v : World} {entry n : Nat} {id : InstanceIdentity} {t : TaskId}

lemma follows_fail {e : BackendError} (registering : Registering w v.affairs)
    (tells : Tells w entry v.affairs (Course.registered w entry))
    (failed : w.registration = .error e) :
    Follows w entry t u n (Task.report entry (.load entry) (fun _ => .ok)
      (fail (w.state.generation + 1) e v)) := by
  have last : Course.registered w entry ⟨0, false⟩ =
      ⟨.absent, [.notice (.cannotRegister (.backend e)), .done entry .ok]⟩ := by
    rw [Course.registered, failed]
  refine Or.inl (tells.ended ⟨0, false⟩ last ?_ rfl)
  show v.state.abandon _ = _
  rw [show v.state = _ from registering.state, BackendState.abandon_registering]

lemma follows_complete (registering : Registering w v.affairs)
    (cycles : v.cycles = w.cycles ++ [{ identity := id, certificate := w.remaining id }])
    (time : v.now = w.setupTime id)
    (tells : Tells w entry v.affairs (Course.leftToSetup w entry id))
    (fresh : v.schedule.point? v.schedule.next = none) (other : v.schedule.next ≠ t)
    (more : 5 < n) :
    Follows w entry t u n (Task.report entry (.load entry) (fun _ => .ok)
      (complete (w.state.generation + 1) w.cycles.length v)) := by
  have start : v.scripts.start = w.scripts.start := congrArg (·.2.2.2) registering.setup
  unfold complete
  rw [show v.state = _ from registering.state, BackendState.setLoading_registering]
  refine Or.inr ⟨v.schedule.next, _, other, ⟨?_, .start ⟨⟨registering.fixtures, rfl,
    ⟨_, _, _, cycles⟩⟩, registering.tunnels, start⟩ cycles registering.setup time
      (tells.since [.done entry .ok] (fun _ => rfl) rfl), nofun⟩, fun _ => more⟩
  show (v.schedule.spawn _).point? v.schedule.next = _
  rw [Schedule.point?_spawn, fresh, if_pos rfl]
  rfl

/-- A certificate that is not for another domain stays. -/
lemma remaining_of_own (own : w.foreign id = none) : w.remaining id = w.found ∧ w.setupTime id =
    w.now + w.scripts.register.next.1.delay + w.scripts.load.next.1.delay := by
  unfold remaining setupTime
  rw [own]
  exact ⟨rfl, rfl⟩

lemma follows_certificateLoaded (registering : Registering w v.affairs)
    (cycles : v.cycles = w.cycles ++ [{ identity := id, certificate := w.found }])
    (reset : v.scripts.reset = w.scripts.reset)
    (time : v.now = w.now + w.scripts.register.next.1.delay + w.scripts.load.next.1.delay)
    (tells : Tells w entry v.affairs (Course.examined w entry id))
    (fresh : v.schedule.point? v.schedule.next = none) (other : v.schedule.next ≠ t)
    (more : 6 < n) :
    Follows w entry t u n (Task.report entry (.load entry) (fun _ => .ok)
      (certificateLoaded (w.state.generation + 1) w.cycles.length v)) := by
  have current : v.state.IsCurrent (w.state.generation + 1) := registering.current
  have certificate : v.certificate? w.cycles.length = w.found := certificate?_of_last cycles
  have domain : v.domain w.cycles.length = id.domain := domain_of_last cycles
  have completes (own : w.foreign id = none) :
      Follows w entry t u n (Task.report entry (.load entry) (fun _ => .ok)
        (complete (w.state.generation + 1) w.cycles.length v)) := by
    have same (host : Host) : Course.examined w entry id host =
        (Course.leftToSetup w entry id host).since [] := by
      rw [Course.examined, own]
      rfl
    obtain ⟨remains, setupTime⟩ := remaining_of_own own
    exact follows_complete registering (remains.symm ▸ cycles) (setupTime.symm ▸ time)
      (tells.since [] same rfl) fresh other (Nat.lt_of_succ_lt more)
  unfold certificateLoaded
  rw [if_pos current, certificate, domain]
  cases found : w.found with
  | none => exact completes (by rw [World.foreign, found]; rfl)
  | some certificate =>
    dsimp only
    split
    · next wrong =>
      have wrong : certificate.isForeign id.domain = true := decide_eq_true wrong
      have foreign : w.foreign id = some certificate := by
        rw [World.foreign, found, Option.filter_some, if_pos wrong]
      have same (host : Host) : Course.examined w entry id host =
          (Course.reset w entry id host).since
            [.notice (.wrongCertificate certificate.commonName id.domain), .resetAuthority] := by
        rw [Course.examined, foreign]
      have due : v.now + v.scripts.reset.next.1.delay = w.setupTime id := by
        rw [setupTime, foreign, time, reset]
      have answer : v.scripts.reset.next.1.answer = w.scripts.reset.next.1.answer := by rw [reset]
      refine And.intro (.reset (registering.keep rfl) cycles (by rw [foreign]; rfl) due answer
        (tells.since _ same rfl)) ⟨?_, fun _ => more⟩
      rintro _ ⟨⟩
      exact Nat.le_add_right ..
    · next own =>
      refine completes ?_
      rw [World.foreign, found, Option.filter_some, if_neg]
      exact fun wrong => own (of_decide_eq_true wrong)

lemma follows_registered {response : RegisterResponse} (registering : Registering w v.affairs)
    (cycles : v.cycles = w.cycles) (storage : v.storage = w.storage)
    (load : v.scripts.load = w.scripts.load) (reset : v.scripts.reset = w.scripts.reset)
    (time : v.now = w.now + w.scripts.register.next.1.delay)
    (registration : w.registration = identify response)
    (tells : Tells w entry v.affairs (Course.registered w entry)) :
    Follows w entry t u 8 (Task.report entry (.load entry) (fun _ => .ok)
      (registered (w.state.generation + 1) response v)) := by
  have current : v.state.IsCurrent (w.state.generation + 1) := registering.current
  unfold registered
  cases validated : response.validate with
  | error e => exact follows_fail registering tells (by rw [registration, identify, validated])
  | ok =>
    let id : InstanceIdentity := ⟨response.domain, response.server, response.email⟩
    have same (host : Host) : Course.registered w entry host = (Course.loaded w entry id host).since
        [.notice (.registered id), .createAuthority id.domain id.contact, .loadCertificate] := by
      rw [Course.registered, registration, identify, validated]
    have length : (v.notice (.registered id)).cycles.length = w.cycles.length :=
      congrArg List.length cycles
    have due : v.now + v.scripts.load.next.1.delay =
        w.now + w.scripts.register.next.1.delay + w.scripts.load.next.1.delay := by rw [time, load]
    have answer : v.scripts.load.next.1.answer = w.scripts.load.next.1.answer := by rw [load]
    dsimp only
    rw [if_pos current]
    unfold createAuthority callLoad
    dsimp only
    rw [length]
    refine And.intro (.certificate (registering.keep rfl) (congrArg (· ++ _) cycles) storage reset
      due answer (tells.since _ same rfl))
        ⟨?_, fun _ => Nat.lt_succ_self 7⟩
    rintro _ ⟨⟩
    exact Nat.le_add_right ..

lemma follows_register {call : Call (Except BackendError RegisterResponse)} {deadline : Nat}
    (registering : Registering w v.affairs) (cycles : v.cycles = w.cycles)
    (storage : v.storage = w.storage) (load : v.scripts.load = w.scripts.load)
    (reset : v.scripts.reset = w.scripts.reset)
    (due : call.due = w.now + w.scripts.register.next.1.delay)
    (answer : call.answer = w.scripts.register.next.1.answer)
    (late : deadline = w.now + w.config.backendTimeout.timerMillis)
    (tells : Tells w entry v.affairs (Course.registered w entry))
    (early : v.now ≤ Nat.min call.due deadline) (arrived : Nat.min call.due deadline ≤ v.now) :
    Follows w entry t u 8 (Task.report entry (.load entry) (fun _ => .ok)
      (resume (.register (w.state.generation + 1) call deadline) v)) := by
  have config : v.config = w.config := congrArg Fixtures.config registering.fixtures
  unfold resume
  dsimp only
  split
  · next there =>
    have before : call.due ≤ deadline :=
      Nat.le_trans there (Nat.le_trans early (Nat.min_le_right ..))
    have inTime : w.scripts.register.next.1.delay ≤ w.config.backendTimeout.timerMillis := by omega
    have time : v.now = w.now + w.scripts.register.next.1.delay :=
      due ▸ Nat.le_antisymm (Nat.le_trans early (Nat.min_le_left ..)) there
    rw [answer]
    cases answered : w.scripts.register.next.1.answer with
    | error e => exact follows_fail registering tells (by rw [registration, if_pos inTime, answered])
    | ok response =>
      refine follows_registered registering cycles storage load reset time ?_ tells
      rw [registration, if_pos inTime, answered]
  · next absent =>
    have tooLate : ¬ w.scripts.register.next.1.delay ≤ w.config.backendTimeout.timerMillis := by
      intro inTime
      have before : call.due ≤ deadline := by omega
      exact absent (Nat.min_eq_left before ▸ arrived)
    rw [config]
    exact follows_fail registering tells (by rw [registration, if_neg tooLate])

lemma follows_certificate {call : Call (Except CertificateError Unit)}
    (registering : Registering w v.affairs) (cycles : v.cycles = w.cycles ++ [{ identity := id }])
    (storage : v.storage = w.storage) (reset : v.scripts.reset = w.scripts.reset)
    (time : v.now = w.now + w.scripts.register.next.1.delay + w.scripts.load.next.1.delay)
    (answer : call.answer = w.scripts.load.next.1.answer)
    (tells : Tells w entry v.affairs (Course.loaded w entry id))
    (fresh : v.schedule.point? v.schedule.next = none) (other : v.schedule.next ≠ t) :
    Follows w entry t u 7 (Task.report entry (.load entry) (fun _ => .ok)
      (resume (.certificate (w.state.generation + 1) w.cycles.length call) v)) := by
  unfold resume
  dsimp only
  rw [answer]
  cases loaded : w.scripts.load.next.1.answer with
  | error e =>
    have found : w.found = none := by rw [World.found, loaded]
    have same (host : Host) : Course.loaded w entry id host =
        (Course.examined w entry id host).since [.notice (.cannotLoad e)] := by
      rw [Course.loaded, loaded]
      rfl
    refine follows_certificateLoaded (registering.keep rfl) ?_ reset time
      (tells.since [.notice (.cannotLoad e)] same rfl) fresh other (Nat.lt_succ_self 6)
    rw [found]
    exact cycles
  | ok =>
    have found : w.found = w.storage := by rw [World.found, loaded]
    have same (host : Host) : Course.loaded w entry id host =
        (Course.examined w entry id host).since [] := by
      rw [Course.loaded, loaded]
      rfl
    refine follows_certificateLoaded (registering.keep rfl) ?_ reset time
      (tells.since [] same rfl) fresh other (Nat.lt_succ_self 6)
    show v.cycles.modify w.cycles.length _ = _
    rw [cycles, modify_last, found, ← storage]

lemma follows_reset {call : Call (Except CertificateError Unit)} {certificate : Certificate}
    (registering : Registering w v.affairs)
    (cycles : v.cycles = w.cycles ++ [{ identity := id, certificate := w.found }])
    (foreign : w.foreign id = some certificate) (time : v.now = w.setupTime id)
    (answer : call.answer = w.scripts.reset.next.1.answer)
    (tells : Tells w entry v.affairs (Course.reset w entry id))
    (fresh : v.schedule.point? v.schedule.next = none) (other : v.schedule.next ≠ t) :
    Follows w entry t u 6 (Task.report entry (.load entry) (fun _ => .ok)
      (resume (.reset (w.state.generation + 1) w.cycles.length call) v)) := by
  have current : v.state.IsCurrent (w.state.generation + 1) := registering.current
  unfold resume
  dsimp only
  rw [answer]
  cases answered : w.scripts.reset.next.1.answer with
  | error e =>
    have remains : w.remaining id = w.found := by rw [World.remaining, foreign, answered]
    have same (host : Host) : Course.reset w entry id host =
        (Course.leftToSetup w entry id host).since [.notice (.cannotReset e)] := by
      rw [Course.reset, answered]
      rfl
    dsimp only
    rw [if_pos (show (v.notice (.cannotReset e)).state.IsCurrent _ from current)]
    exact follows_complete (registering.keep rfl) (remains.symm ▸ cycles) time
      (tells.since [.notice (.cannotReset e)] same rfl) fresh other (Nat.lt_succ_self 5)
  | ok =>
    have remains : w.remaining id = none := by rw [World.remaining, foreign, answered]
    have same (host : Host) : Course.reset w entry id host =
        (Course.leftToSetup w entry id host).since [] := by
      rw [Course.reset, answered]
      rfl
    have gone : (v.resetArrived w.cycles.length).cycles =
        w.cycles ++ [{ identity := id, certificate := w.remaining id }] := by
      show v.cycles.modify w.cycles.length _ = _
      rw [cycles, modify_last, remains]
    dsimp only
    rw [if_pos (show (v.resetArrived w.cycles.length).state.IsCurrent _ from current)]
    exact follows_complete (registering.keep rfl) gone time (tells.since [] same rfl) fresh other
      (Nat.lt_succ_self 5)

lemma follows_resume {p : LoadPoint} (stage : Stage w entry v.affairs v.now (.load entry p))
    (early : ∀ due, p.wait = .time due → v.now ≤ due) (arrived : v.arrived t p.wait = true)
    (fresh : v.schedule.point? v.schedule.next = none) (other : v.schedule.next ≠ t) :
    Follows w entry t v (p.rank + 6) (Task.report entry (.load entry) (fun _ => .ok)
      (resume p v)) := by
  cases stage with
  | register registering cycles storage load reset due answer late tells =>
    exact follows_register registering cycles storage load reset due answer late tells (early _ rfl)
      (of_decide_eq_true arrived)
  | certificate registering cycles storage reset due answer tells =>
    exact follows_certificate registering cycles storage reset
      (due ▸ Nat.le_antisymm (early _ rfl) (of_decide_eq_true arrived)) answer tells fresh other
  | reset registering cycles foreign due answer tells =>
    obtain ⟨certificate, foreign⟩ := Option.isSome_iff_exists.1 foreign
    exact follows_reset registering cycles foreign
      (due ▸ Nat.le_antisymm (early _ rfl) (of_decide_eq_true arrived)) answer tells fresh other

end Load

end TunnelKeeper.Coordinator
