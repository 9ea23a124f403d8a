import TunnelKeeper.Proofs.Closing
import TunnelKeeper.Proofs.Loads
import TunnelKeeper.Proofs.Office

/-!
Checks of the certificate that are left alone. Each of them comes to an end, and what it comes to is
settled when it begins: it loads a backend that is not there, or leaves all as it is, or fails to have
a certificate issued and leaves all as it is, or renews the certificate, which reloads the backend.
-/

namespace TunnelKeeper.Coordinator

open World Cooperative

/-! ### Leaving a task alone -/

/-- No other task takes a turn, and nothing is asked for: time passes, TLS contexts are built, and
the host may change its mind. -/
def Move.Spares (t : TaskId) : Move → Prop
  | turn u => u = t
  | line _ => True
  | build => True
  | time _ => True
  | host _ _ => True
  | _ => False

lemma Move.LeavesTo.spares {t : TaskId} {m : Move} (leaves : m.LeavesTo t) : m.Spares t := by
  cases m with
  | turn u => exact leaves
  | build | time | host => trivial
  | _ => exact leaves.elim

namespace World

variable {u v w : World}

/-- Nothing that the coordinator keeps has changed meanwhile. -/
structure Lapse (w v : World) : Prop where
  same : v = { w with
    schedule := v.schedule
    builds := v.builds
    runtimeReady := v.runtimeReady
    autostart := v.autostart }
  later : w.now ≤ v.now

namespace Lapse

lemma refl (w : World) : w.Lapse w := ⟨rfl, Nat.le_refl _⟩

lemma trans (h : w.Lapse v) (h' : v.Lapse u) : w.Lapse u where
  same := by
    rw [h'.same, h.same]
  later := Nat.le_trans h.later h'.later

lemma state (h : w.Lapse v) : v.state = w.state := by rw [h.same]

lemma config (h : w.Lapse v) : v.config = w.config := by rw [h.same]

lemma exists_eq (h : w.Lapse v) : ∃ schedule builds runtimeReady autostart, v = { w with
    schedule := schedule
    builds := builds
    runtimeReady := runtimeReady
    autostart := autostart } :=
  ⟨_, _, _, _, h.same⟩

lemma of_move {m : Move} {t : TaskId} (move : m.outcome? w = some v) (spares : m.Spares t)
    (other : m ≠ .turn t) : w.Lapse v := by
  cases m with
  | turn u => exact absurd (congrArg Move.turn spares) other
  | build =>
    rw [Move.outcome?, finishBuild?] at move
    split at move
    · cases move
    · next t rest _ =>
      obtain rfl := Option.some.inj move
      refine ⟨rfl, Nat.le_of_eq ?_⟩
      show w.schedule.now = (w.schedule.wake t).now
      rw [Schedule.wake_eq]
  | time now =>
    obtain ⟨le, move⟩ := Option.ite_none_right_eq_some.1 move
    obtain rfl := Option.some.inj move
    exact ⟨rfl, le⟩
  | line | host =>
    obtain rfl := Option.some.inj move
    exact ⟨rfl, Nat.le_refl _⟩
  | _ => exact spares.elim

end Lapse

end World

/-- What a program comes to that begins with a turn and is left alone: whenever it waits, time passes
until it goes on. -/
inductive Alone {P R : Type} (wait : P → Wait) (resume : P → World → Turn P R) (first : Turn P R) :
    Turn P R → Prop
  | first : Alone wait resume first first
  | next {v u : World} {p : P} (before : Alone wait resume first (v, .wait p)) (lapse : v.Lapse u)
      (passed : ∀ due, wait p = .time due → due ≤ u.now) : Alone wait resume first (resume p u)

/-- What a load comes to that begins in a world and is left alone. -/
abbrev Load.Alone (w : World) : Turn LoadPoint Unit → Prop :=
  Coordinator.Alone LoadPoint.wait Load.resume (Load.start w)

/-- What a check comes to that begins in a world and is left alone. -/
abbrev Check.Alone (w : World) : Turn CheckPoint CertificateCheck → Prop :=
  Coordinator.Alone CheckPoint.wait Check.resume (Check.start w)

/-! ### What a check comes to -/

namespace World

variable (w : World) (a : Active)

/-- When the certificate of a backend expires, if there is one. -/
def expiry? : Option Instant := (w.certificate? a.registration).map (·.expireDate)

/-- The backend has a certificate that expires later than within the threshold of renewals. -/
def NotDue : Prop :=
  match w.expiry? a, w.clock.addSecs? w.config.renewThreshold with
  | some expire, some limit => limit < expire
  | _, _ => False

instance : Decidable (w.NotDue a) := by
  unfold NotDue
  split <;> infer_instance

/-- What a check comes to that begins now. -/
def verdict : CertificateCheck :=
  match w.state.active? with
  | none => .loadedBackend
  | some a =>
    if w.NotDue a then .notDue
    else
      match w.scripts.issue.next.1.answer with
      | .error _ => .renewalFailed
      | .ok _ => .renewed

/-- The warning that a renewal failed, if the certificate expires soon. -/
def warning (e : CertificateError) : List Event :=
  match renewalUrgent? (w.expiry? a) w.clock w.config.warnThreshold with
  | some true => [.notice (.renewalFailed e)]
  | _ => []

/-- A certificate could not be issued, and nothing but that has happened. -/
structure FailsToRenew (e : CertificateError) (v : World) : Prop where
  same : v = { w with
    schedule := v.schedule
    builds := v.builds
    runtimeReady := v.runtimeReady
    autostart := v.autostart
    scripts := { w.scripts with issue := w.scripts.issue.next.2 }
    trace := v.trace }
  events : v.history = w.warning a e ++
    .issueCertificate (w.domain a.registration) :: .notice (.renewing (w.expiry? a)) :: w.history

/-- The backend has a new certificate and has been taken down: its tunnel has stopped, its guard has
been cancelled, and the host has heard of it. -/
structure TakenDown (v : World) : Prop where
  same : v = { w with
    schedule := v.schedule
    builds := v.builds
    runtimeReady := v.runtimeReady
    autostart := v.autostart
    state := ⟨w.state.generation + 1, .absent⟩
    guardSlot := w.guardSlot.cancel
    cycles := v.cycles
    storage := v.storage
    issued := w.issued + 1
    tunnels := w.tunnels.modify a.tunnel fun tunnel =>
      { tunnel with stage := .stopped, connected := false }
    scripts := { w.scripts with
      issue := w.scripts.issue.next.2
      stop := w.scripts.stop.next.2 }
    trace := v.trace }
  certified : ∃ certificate, v.storage = some certificate ∧
    v.cycles = w.cycles.modify a.registration fun cycle =>
      { cycle with certificate := some certificate }
  events : v.history = .signal .backendDown :: .notice .backendDown :: .stopTunnel a.tunnel ::
    .issueCertificate (w.domain a.registration) :: .notice (.renewing (w.expiry? a)) :: w.history

/-- The backend was down, and after the pause it was loaded once. The handler was kept. -/
structure Reloads (down up v : World) : Prop where
  taken : w.TakenDown a down
  lapse : down.Lapse up
  paused : down.after w.config.renewalSettle ≤ up.now
  loaded : Load.Alone up (v, .done ())
  once : v.registrations = w.registrations + 1
  handler : w.handlerSlot.isRunning → v.handlerSlot = w.handlerSlot

/-- What a check leaves behind that comes to something. -/
def Leaves : CertificateCheck → World → Prop
  | .loadedBackend, v => Load.Alone w (v, .done ())
  | .notDue, v => v = w
  | .renewalFailed, v => ∃ a e, w.state.active? = some a ∧
      w.scripts.issue.next.1.answer = .error e ∧ w.FailsToRenew a e v
  | .renewed, v => ∃ a down up, w.state.active? = some a ∧ w.Reloads a down up v

end World

/-! ### The stages of a check -/

namespace World

variable {w u v : World} {a : Active}

/-- The backend has a new certificate, and its tunnel is stopping. -/
structure Stopping (w : World) (a : Active) (v : World) : Prop where
  same : v = { w with
    schedule := v.schedule
    builds := v.builds
    runtimeReady := v.runtimeReady
    autostart := v.autostart
    state := ⟨w.state.generation + 1, .absent⟩
    guardSlot := w.guardSlot.cancel
    cycles := v.cycles
    storage := v.storage
    issued := w.issued + 1
    tunnels := w.tunnels.modify a.tunnel fun tunnel => { tunnel with stage := .stopping }
    scripts := { w.scripts with
      issue := w.scripts.issue.next.2
      stop := w.scripts.stop.next.2 }
    trace := v.trace }
  certified : ∃ certificate, v.storage = some certificate ∧
    v.cycles = w.cycles.modify a.registration fun cycle =>
      { cycle with certificate := some certificate }
  events : v.history = .stopTunnel a.tunnel :: .issueCertificate (w.domain a.registration) ::
    .notice (.renewing (w.expiry? a)) :: w.history

/-- The new certificate of a backend is being issued. -/
def issuing (w : World) (a : Active) : World :=
  ((w.notice (.renewing (w.expiry? a))).callIssue a.registration).2

lemma issuing_eq (w : World) (a : Active) : w.issuing a = { w with
    scripts := { w.scripts with issue := w.scripts.issue.next.2 }
    trace := (w.now, .issueCertificate (w.domain a.registration)) ::
      (w.now, .notice (.renewing (w.expiry? a))) :: w.trace } := rfl

lemma callStop_eq (w : World) (n : TunnelId) : (w.callStop n).2 = { w with
    tunnels := w.tunnels.modify n fun tunnel => { tunnel with stage := .stopping }
    scripts := { w.scripts with stop := w.scripts.stop.next.2 }
    trace := (w.now, .stopTunnel n) :: w.trace } := rfl

lemma taken_eq (w : World) : Teardown.taken false w = { w with
    state := ⟨w.state.generation + 1, .absent⟩
    guardSlot := w.guardSlot.cancel
    schedule := (Teardown.taken false w).schedule } := by
  rw [show Teardown.taken false w = World.wakeOption _ _ from rfl, wakeOption_eq]
  rfl

lemma told_eq (w : World) (n : TunnelId) :
    ((w.stopArrived n).notice .backendDown).signal .backendDown = { w with
      tunnels := w.tunnels.modify n fun tunnel =>
        { tunnel with stage := .stopped, connected := false }
      schedule := (w.stopArrived n).schedule
      trace := ((w.stopArrived n).now, .signal .backendDown) ::
        ((w.stopArrived n).now, .notice .backendDown) :: w.trace } := by
  unfold stopArrived setConnected modifyTunnel notice signal record
  dsimp only
  rw [List.modify_modify_eq]
  rfl

lemma stopping_of_issued (ready : w.state.active? = some a) (lapse : (w.issuing a).Lapse u)
    (issue : Issue) :
    ∃ v call, Teardown.start false (u.issueArrived a.registration issue) =
      (v, .wait ⟨a.tunnel, call⟩) ∧ w.Stopping a v := by
  obtain ⟨schedule, builds, runtimeReady, autostart, rfl⟩ := lapse.exists_eq
  have state : w.state = ⟨a.generation, .ready a.registration a.tunnel⟩ :=
    BackendState.active?_eq_some_iff.1 ready
  refine ⟨_, _, Teardown.start_of_ready (r := a.registration) (n := a.tunnel) ?_, ?_⟩
  · show w.state.phase = _
    rw [state]
  · rw [issuing_eq, callStop_eq, taken_eq]
    exact ⟨rfl, ⟨_, rfl, rfl⟩, rfl⟩

lemma Stopping.lapse (h : w.Stopping a v) (lapse : v.Lapse u) : w.Stopping a u := by
  obtain ⟨schedule, builds, runtimeReady, autostart, rfl⟩ := lapse.exists_eq
  obtain ⟨same, certified, events⟩ := h
  refine ⟨?_, certified, events⟩
  rw [same]

lemma Stopping.takenDown (h : w.Stopping a v) :
    w.TakenDown a (((v.stopArrived a.tunnel).notice .backendDown).signal .backendDown) := by
  obtain ⟨same, certified, events⟩ := h
  rw [told_eq]
  refine ⟨?_, certified, ?_⟩
  · rw [same]
    dsimp only
    rw [List.modify_modify_eq]
    rfl
  · show _ :: _ :: v.history = _
    rw [events]

end World

namespace Load

lemma start_ne_panic (w : World) : (start w).2 ≠ .panic := by
  unfold start
  split <;> nofun

lemma resume_ne_panic (p : LoadPoint) (w : World) : (resume p w).2 ≠ .panic := by
  have completed (g : Nat) (c : CycleId) (v : World) : (complete g c v).2 ≠ .panic := by
    rw [complete_snd]
    rintro ⟨⟩
  have loaded (g : Nat) (c : CycleId) (v : World) : (certificateLoaded g c v).2 ≠ .panic := by
    unfold certificateLoaded
    split
    · split
      · exact completed g c v
      · split
        · rintro ⟨⟩
        · exact completed g c v
    · rintro ⟨⟩
  cases p with
  | register g call deadline =>
    rw [resume]
    split
    · split
      · unfold registered
        split
        · rintro ⟨⟩
        · split <;> rintro ⟨⟩
      · rintro ⟨⟩
    · rintro ⟨⟩
  | certificate g c call =>
    rw [resume]
    split <;> exact loaded g c _
  | reset g c call =>
    unfold resume
    dsimp only
    split <;> split
    · exact completed g c _
    · rintro ⟨⟩
    · exact completed g c _
    · rintro ⟨⟩

lemma ne_panic_of_alone {w : World} {x : Turn LoadPoint Unit} (alone : Load.Alone w x) :
    x.2 ≠ .panic := by
  cases alone with
  | first => exact start_ne_panic w
  | next => exact resume_ne_panic _ _

/-- In the middle of a load, no instance is registered and no handler spawned. -/
lemma kept_of_resume (p : LoadPoint) (w : World) :
    (resume p w).1.registrations = w.registrations ∧ (resume p w).1.handlerSlot = w.handlerSlot := by
  have deed := deed_resume 0 .caller p w
  rw [← outline_registrations, ← outline_registrations]
  show (resume p w).1.outline.registrations = w.outline.registrations ∧
    (resume p w).1.outline.handlerSlot = w.outline.handlerSlot
  generalize (resume p w).1.outline = d at deed
  generalize w.outline = c at deed
  generalize (resume p w).2.job .load = y at deed
  cases deed with
  | dropped handler => cases handler
  | takeReady withHandler _ _ asked | take withHandler _ asked => cases withHandler <;> cases asked
  | _ => exact ⟨rfl, rfl⟩

/-- A load that begins registers an instance once, and keeps the handler if there is one. -/
lemma kept_of_alone {w : World} {x : Turn LoadPoint Unit} (alone : Load.Alone w x)
    (idle : w.state.phase.Idle) : x.1.registrations = w.registrations + 1 ∧
      (w.handlerSlot.isRunning → x.1.handlerSlot = w.handlerSlot) := by
  induction alone with
  | first =>
    have begun : (start w).1 = (({ w with
        state := ⟨w.state.generation + 1, .registering⟩ } : World).startHandler).callRegister.2 := by
      unfold start
      rw [BackendState.beginLoad_of_idle idle]
    rw [begun]
    unfold startHandler
    split
    · exact ⟨List.countP_cons, fun _ => rfl⟩
    · next empty => exact ⟨List.countP_cons, fun running => absurd running empty⟩
  | @next v u p before lapse passed ih =>
    have registrations : u.registrations = v.registrations := by rw [lapse.same]; rfl
    have handlerSlot : u.handlerSlot = v.handlerSlot := by rw [lapse.same]
    rw [(kept_of_resume p u).1, (kept_of_resume p u).2, registrations, handlerSlot]
    exact ih

end Load

lemma World.TakenDown.reloads {w down up v : World} {a : Active} (taken : w.TakenDown a down)
    (lapse : down.Lapse up) (paused : down.after w.config.renewalSettle ≤ up.now)
    (loaded : Load.Alone up (v, .done ())) : w.Reloads a down up v := by
  have counted (u : World) : u.registrations = u.history.countP Event.isRegister := by
    unfold registrations history
    rw [List.countP_map]
    rfl
  have registrations : up.registrations = w.registrations := by
    rw [counted, counted, show up.history = down.history by rw [lapse.same]; rfl, taken.events]
    rfl
  have handlerSlot : up.handlerSlot = w.handlerSlot := by rw [lapse.same, taken.same]
  have idle : up.state.phase.Idle := by
    rw [lapse.same, taken.same]
    trivial
  have kept := Load.kept_of_alone loaded idle
  rw [registrations, handlerSlot] at kept
  exact ⟨taken, lapse, paused, loaded, kept.1, kept.2⟩

namespace Check

variable {w u v : World} {a : Active}

lemma loading_cases (goOn : LoadPoint → CheckPoint) (outcome : CertificateCheck)
    {x : Turn LoadPoint Unit} (calm : x.2 ≠ .panic) :
    (∃ v p, x = (v, .wait p) ∧ loading goOn outcome x = (v, .wait (goOn p))) ∨
      ∃ v, x = (v, .done ()) ∧ loading goOn outcome x = (v, .done outcome) := by
  obtain ⟨v, p | _ | _⟩ := x
  · exact .inl ⟨v, p, rfl, rfl⟩
  · exact .inr ⟨v, rfl, rfl⟩
  · exact absurd rfl calm

/-- How far a check has come that is left alone. -/
inductive Stage (w : World) : Turn CheckPoint CertificateCheck → Prop
  | loads {x : Turn LoadPoint Unit} (unready : w.state.active? = none) (load : Load.Alone w x) :
      Stage w (loading .load .loadedBackend x)
  | notDue {a : Active} (ready : w.state.active? = some a) (notDue : w.NotDue a) :
      Stage w (w, .done .notDue)
  | issues {a : Active} (call : Call (Except CertificateError Issue))
      (ready : w.state.active? = some a) (due : ¬ w.NotDue a)
      (asked : call.answer = w.scripts.issue.next.1.answer) :
      Stage w (w.issuing a, .wait (.issue a.registration (w.expiry? a) w.clock call))
  | fails {a : Active} {e : CertificateError} {v : World} (ready : w.state.active? = some a)
      (due : ¬ w.NotDue a) (failed : w.scripts.issue.next.1.answer = .error e)
      (left : w.FailsToRenew a e v) : Stage w (v, .done .renewalFailed)
  | stops {a : Active} {issue : Issue} {v : World} (call : Call Unit)
      (ready : w.state.active? = some a) (due : ¬ w.NotDue a)
      (issued : w.scripts.issue.next.1.answer = .ok issue) (stopping : w.Stopping a v) :
      Stage w (v, .wait (.teardown ⟨a.tunnel, call⟩))
  | settles {a : Active} {issue : Issue} {v : World} (ready : w.state.active? = some a)
      (due : ¬ w.NotDue a) (issued : w.scripts.issue.next.1.answer = .ok issue)
      (down : w.TakenDown a v) : Stage w (v, .wait (.settle (v.after v.config.renewalSettle)))
  | reloads {a : Active} {issue : Issue} {down up : World} {x : Turn LoadPoint Unit}
      (ready : w.state.active? = some a) (due : ¬ w.NotDue a)
      (issued : w.scripts.issue.next.1.answer = .ok issue) (taken : w.TakenDown a down)
      (lapse : down.Lapse up) (paused : down.after w.config.renewalSettle ≤ up.now)
      (load : Load.Alone up x) : Stage w (loading .reload .renewed x)

/-- Whether the certificate is due can be told if the threshold can be added to the time. -/
lemma renewalDue?_eq (renewable : (w.clock.addSecs? w.config.renewThreshold).isSome) (a : Active) :
    ∃ due, renewalDue? (w.expiry? a) w.clock w.config.renewThreshold = some due ∧
      (due = true ↔ ¬ w.NotDue a) := by
  obtain ⟨limit, sum⟩ := Option.isSome_iff_exists.1 renewable
  unfold renewalDue? NotDue
  rw [sum]
  cases w.expiry? a with
  | none => exact ⟨true, rfl, by simp⟩
  | some expire =>
    refine ⟨_, rfl, ?_⟩
    rw [decide_eq_true_eq]
    show (_ ∨ _) ↔ ¬ (_ ∨ _)
    omega

lemma renewalUrgent?_isSome (expire : Option Instant)
    (warnable : (w.clock.addSecs? w.config.warnThreshold).isSome) :
    ∃ urgent, renewalUrgent? expire w.clock w.config.warnThreshold = some urgent := by
  obtain ⟨limit, sum⟩ := Option.isSome_iff_exists.1 warnable
  unfold renewalUrgent? renewalDue?
  cases expire with
  | none => exact ⟨true, rfl⟩
  | some expire => exact ⟨_, by rw [sum]; rfl⟩

lemma stage_start (renewable : (w.clock.addSecs? w.config.renewThreshold).isSome) :
    Stage w (start w) := by
  unfold start
  split
  · next unready => exact .loads unready .first
  · next a ready =>
    obtain ⟨due, known, iff⟩ := renewalDue?_eq renewable a
    have known : renewalDue? ((w.certificate? a.registration).map (·.expireDate)) w.clock
        w.config.renewThreshold = some due := known
    dsimp only
    rw [known]
    cases due with
    | true => exact .issues _ ready (iff.1 rfl) rfl
    | false => exact .notDue ready (by simpa using iff)

lemma stage_failed {e : CertificateError} (ready : w.state.active? = some a)
    (due : ¬ w.NotDue a) (error : w.scripts.issue.next.1.answer = .error e)
    (lapse : (w.issuing a).Lapse u)
    (warnable : (w.clock.addSecs? w.config.warnThreshold).isSome) :
    Stage w (failed (w.expiry? a) w.clock e u) := by
  obtain ⟨urgent, known⟩ := renewalUrgent?_isSome (w.expiry? a) warnable
  have config : u.config = w.config := lapse.config
  obtain ⟨schedule, builds, runtimeReady, autostart, rfl⟩ := lapse.exists_eq
  unfold failed
  rw [config, known]
  have warned : w.warning a e = if urgent then [.notice (.renewalFailed e)] else [] := by
    unfold warning
    rw [known]
    cases urgent <;> rfl
  rw [issuing_eq]
  cases urgent with
  | true => exact .fails ready due error ⟨rfl, by rw [warned]; rfl⟩
  | false => exact .fails ready due error ⟨rfl, by rw [warned]; rfl⟩

/-- What a check comes to that is left alone is one of the stages. -/
theorem stage_of_alone {x : Turn CheckPoint CertificateCheck} (alone : Check.Alone w x)
    (renewable : (w.clock.addSecs? w.config.renewThreshold).isSome)
    (warnable : (w.clock.addSecs? w.config.warnThreshold).isSome) : Stage w x := by
  induction alone with
  | first => exact stage_start renewable
  | @next v u p before lapse passed ih =>
    generalize eq : ((v, .wait p) : Turn CheckPoint CertificateCheck) = y at ih
    cases ih with
    | @loads x unready load =>
      obtain ⟨v, q, rfl, there⟩ | ⟨v, rfl, there⟩ :=
        loading_cases .load .loadedBackend (Load.ne_panic_of_alone load)
      · cases eq.trans there
        exact .loads unready (load.next lapse passed)
      · cases eq.trans there
    | notDue => cases eq
    | @issues a call ready due asked =>
      cases eq
      obtain ⟨arrives, answer⟩ := call
      cases answer with
      | error e => exact stage_failed ready due asked.symm lapse warnable
      | ok issue =>
        obtain ⟨v, call, stops, stopping⟩ := stopping_of_issued ready lapse issue
        show Stage w (tearingDown (Teardown.start false (u.issueArrived a.registration issue)))
        rw [stops]
        exact .stops call ready due asked.symm stopping
    | fails => cases eq
    | @stops a issue _ call ready due issued stopping =>
      cases eq
      exact .settles ready due issued (stopping.lapse lapse).takenDown
    | @settles a issue _ ready due issued down =>
      cases eq
      have paused := passed _ rfl
      rw [show v.config = w.config by rw [down.same]] at paused
      exact .reloads ready due issued down lapse paused .first
    | @reloads a issue down up x ready due issued taken lapse' paused load =>
      obtain ⟨v, q, rfl, there⟩ | ⟨v, rfl, there⟩ :=
        loading_cases .reload .renewed (Load.ne_panic_of_alone load)
      · cases eq.trans there
        exact .reloads ready due issued taken lapse' paused (load.next lapse passed)
      · cases eq.trans there

lemma Stage.ends {x : Turn CheckPoint CertificateCheck} (stage : Stage w x)
    (finished : ∀ u p, x ≠ (u, .wait p)) :
    ∃ v, x = (v, .done w.verdict) ∧ w.Leaves w.verdict v := by
  unfold World.verdict
  cases stage with
  | @loads x unready load =>
    obtain ⟨v, p, rfl, there⟩ | ⟨v, rfl, there⟩ :=
      loading_cases .load .loadedBackend (Load.ne_panic_of_alone load)
    · exact absurd there (finished _ _)
    · rw [unready]
      exact ⟨v, there, load⟩
  | @notDue a ready notDue =>
    rw [ready]
    dsimp only
    rw [if_pos notDue]
    exact ⟨w, rfl, rfl⟩
  | issues => exact absurd rfl (finished _ _)
  | @fails a e v ready due failed left =>
    rw [ready]
    dsimp only
    rw [if_neg due, failed]
    exact ⟨v, rfl, a, e, ready, failed, left⟩
  | stops => exact absurd rfl (finished _ _)
  | settles => exact absurd rfl (finished _ _)
  | @reloads a issue down up x ready due issued taken lapse paused load =>
    obtain ⟨v, p, rfl, there⟩ | ⟨v, rfl, there⟩ :=
      loading_cases .reload .renewed (Load.ne_panic_of_alone load)
    · exact absurd there (finished _ _)
    · rw [ready]
      dsimp only
      rw [if_neg due, issued]
      exact ⟨v, there, a, down, up, ready, taken.reloads lapse paused load⟩

end Check

/-! ### Tasks that check -/

section Tasks

variable {t : TaskId} {u v w w' : World} {task : Task} {entry : Nat}

/-- The end of a turn changes nothing but the schedule, unless it was that of a background task. -/
lemma lapse_advance (back : Background w.outline) (here : w.schedule.point? t = some task)
    (asked : task.owner = .caller) : (Task.resume t task w).1.Lapse (advance t task w) := by
  have turned := Task.turned_resume t task w
  rw [asked] at turned
  unfold advance
  rw [show Cooperative.resume t task w = Task.resume t task w from rfl]
  rcases resumed : Task.resume t task w with ⟨v, next | next⟩
  · have own : w.outline.owner t = some .caller := asked ▸ outline_owner here
    rw [resumed] at turned
    have handler : v.handlerSlot.finish t = v.handlerSlot :=
      TaskSlot.finish_of_ne (back.handler_of_over own turned nofun)
    have guard : v.guardSlot.finish t = v.guardSlot :=
      TaskSlot.finish_of_ne (back.guard_of_over own turned nofun)
    refine ⟨?_, Nat.le_refl _⟩
    show { v with
      schedule := v.schedule.removeTask t
      handlerSlot := v.handlerSlot.finish t
      guardSlot := v.guardSlot.finish t } = { v with schedule := v.schedule.removeTask t }
    rw [handler, guard]
  · exact ⟨rfl, Nat.le_refl _⟩

namespace Check

/-- The task is where a check has come to that somebody asked for. -/
def At (t : TaskId) (entry : Nat) : Turn CheckPoint CertificateCheck → World → Prop
  | (u, .wait p), v => v.schedule.point? t = some (.check entry p) ∧ u.Lapse v
  | (u, .done outcome), v =>
    v.schedule.point? t = none ∧ (u.record (.done entry (.check outcome))).Lapse v
  | (u, .panic), v => v.schedule.point? t = none ∧ (u.record (.done entry .panic)).Lapse v

lemma at_advance {x : Turn CheckPoint CertificateCheck} (back : Background w.outline)
    (here : w.schedule.point? t = some task) (asked : task.owner = .caller)
    (resumed : Task.resume t task w = Task.report entry (.check entry) .check x) :
    At t entry x (advance t task w) := by
  have point := point?_advance t task w
  have lapse := lapse_advance back here asked
  rw [resumed] at point lapse
  obtain ⟨u, p | outcome | _⟩ := x
  · exact ⟨point, lapse⟩
  · exact ⟨point, lapse⟩
  · exact ⟨point, lapse⟩

lemma At.of_move {x : Turn CheckPoint CertificateCheck} {m : Move} (at_it : At t entry x v)
    (move : m.outcome? v = some w') (spares : m.Spares t) (other : m ≠ .turn t) :
    At t entry x w' := by
  have lapse := World.Lapse.of_move move spares other
  have point : w'.schedule.point? t = v.schedule.point? t := by
    have same := Move.tasks_eq move (fun u same => ?_) (fun _ same => ?_) (fun _ same => ?_)
    · unfold Schedule.point?
      rw [same]
    · subst same
      exact other (congrArg Move.turn spares)
    · exact (same ▸ spares : Move.Spares t (.ask _)).elim
    · exact (same ▸ spares : Move.Spares t (.giveUp _)).elim
  obtain ⟨u, p | outcome | _⟩ := x
  · exact ⟨point.trans at_it.1, at_it.2.trans lapse⟩
  · exact ⟨point.trans at_it.1, at_it.2.trans lapse⟩
  · exact ⟨point.trans at_it.1, at_it.2.trans lapse⟩

lemma exists_of_turn {x : Turn CheckPoint CertificateCheck} (alone : Check.Alone u x)
    (at_it : At t entry x v) (back : Background v.outline)
    (turn : (Move.turn t).outcome? v = some w') :
    ∃ y, Check.Alone u y ∧ At t entry y w' := by
  obtain ⟨task, here, ready, rfl⟩ := Coordinator.World.exists_of_turn turn
  obtain ⟨u', p | outcome | _⟩ := x
  · obtain ⟨there, lapse⟩ := at_it
    cases here.symm.trans there
    refine ⟨_, alone.next lapse fun due wait => ?_, at_advance back here rfl rfl⟩
    rcases Bool.or_eq_true_iff.1 ready with arrived | cancelled
    · have wait : (Task.check entry p).wait = .time due := wait
      rw [wait] at arrived
      exact of_decide_eq_true arrived
    · cases cancelled
  · cases here.symm.trans at_it.1
  · cases here.symm.trans at_it.1

/-- As long as all others are spared, the task is where its check comes to alone. -/
lemma exists_of_run {x : Turn CheckPoint CertificateCheck} {moves : List Move}
    (alone : Check.Alone u x) (at_it : At t entry x v) (back : Background v.outline)
    (spares : ∀ m ∈ moves, m.Spares t) (run : v.after? moves = some w') :
    ∃ y, Check.Alone u y ∧ At t entry y w' := by
  induction moves generalizing v x with
  | nil => exact ⟨x, alone, Option.some.inj run ▸ at_it⟩
  | cons m moves ih =>
    obtain ⟨v', first, rest⟩ := Option.bind_eq_some_iff.1 run
    rw [List.forall_mem_cons] at spares
    have next := back.step (Move.step first)
    by_cases mine : m = .turn t
    · subst mine
      obtain ⟨y, alone, at_it⟩ := exists_of_turn alone at_it back first
      exact ih alone at_it next spares.2 rest
    · exact ih alone (at_it.of_move first spares.1 mine) next spares.2 rest

/-! #### The end of a check -/

/-- How many points are left to a check at most. -/
def left : CheckPoint → Nat
  | .load p => p.rank
  | .reload p => p.rank
  | .settle _ => 3
  | .teardown _ => 4
  | .issue _ _ _ _ => 5

lemma rank_of_goesOn {p q : LoadPoint} {v : World} (goesOn : (Load.resume p v).2 = .wait q) :
    q.rank < p.rank := by
  have deed := Load.deed_resume 0 .caller p v
  rw [goesOn] at deed
  generalize (Load.resume p v).1.outline = d at deed
  generalize after : (Progress.wait q : Progress LoadPoint Unit).job .load = y at deed
  cases deed with
  | loadOn _ closer =>
    cases after
    exact closer
  | _ => cases after

lemma left_loading {goOn : LoadPoint → CheckPoint} {outcome : CertificateCheck} {n : Nat}
    {turn : Turn LoadPoint Unit} {q : CheckPoint} (same : ∀ p, left (goOn p) = p.rank)
    (closer : ∀ p, turn.2 = .wait p → p.rank < n)
    (came : (loading goOn outcome turn).2 = .wait q) : left q < n := by
  obtain ⟨v, p | _ | _⟩ := turn
  · cases came
    rw [same]
    exact closer p rfl
  · cases came
  · cases came

lemma left_lt {p q : CheckPoint} {v : World} (goesOn : (resume p v).2 = .wait q) :
    left q < left p := by
  cases p with
  | load p => exact left_loading (fun _ => rfl) (fun _ => rank_of_goesOn) goesOn
  | reload p => exact left_loading (fun _ => rfl) (fun _ => rank_of_goesOn) goesOn
  | settle due =>
    refine left_loading (n := 3) (fun _ => rfl) (fun p waits => ?_) goesOn
    unfold Load.start at waits
    split at waits <;> cases waits
    exact Nat.lt_succ_self 2
  | teardown p =>
    cases goesOn
    exact Nat.lt_succ_self 3
  | issue c expire checked call =>
    rcases point_of_issue goesOn with ⟨p, rfl⟩ | ⟨due, rfl⟩
    · exact Nat.lt_succ_self 4
    · exact Nat.lt_add_of_pos_right (k := 2) Nat.two_pos

lemma exists_due (p : CheckPoint) : ∃ due, p.wait = .time due := by
  cases p with
  | load p | reload p => cases p <;> exact ⟨_, rfl⟩
  | _ => exact ⟨_, rfl⟩

/-- A check that is left alone comes to an end. -/
lemma exists_end {p : CheckPoint} (here : v.schedule.point? t = some (.check entry p)) :
    ∃ w', LeadsTo t v w' ∧ w'.schedule.point? t = none := by
  induction points : left p using Nat.strongRecOn generalizing v p with
  | ind n ih =>
    -- Time passes until the check need not wait, and then it takes its turn.
    obtain ⟨due, wait⟩ := exists_due p
    let later : World := { v with schedule := { v.schedule with now := max v.now due } }
    have passes : (Move.time (max v.now due)).outcome? v = some later :=
      if_pos (Nat.le_max_left ..)
    have ready : later.ready t (.check entry p) = true := by
      refine Bool.or_eq_true_iff.2 (.inl ?_)
      rw [show (Task.check entry p).wait = .time due from wait]
      exact decide_eq_true (Nat.le_max_right v.now due)
    have turn : (Move.turn t).outcome? later = some (advance t (.check entry p) later) := by
      rw [Move.outcome?, show later.schedule.point? t = _ from here]
      exact if_pos ready
    have lead : LeadsTo t v (advance t (.check entry p) later) :=
      (LeadsTo.move (m := .time _) trivial passes).trans (.move (m := .turn t) rfl turn)
    have point := point?_advance t (.check entry p) later
    cases next : (Task.resume t (.check entry p) later).2 with
    | none => exact ⟨_, lead, point.trans next⟩
    | some task =>
      obtain ⟨q, goesOn, rfl, -⟩ := Task.exists_wait_of_report next
      obtain ⟨w', more, finished⟩ := ih (left q) (points ▸ left_lt goesOn) (point.trans next) rfl
      exact ⟨w', lead.trans more, finished⟩

end Check

/-! ### A check is all or nothing -/

/-- **A check of the certificate is all or nothing.** If it is left alone, it comes to an end, and
the verdict is settled when it begins. A backend that is not ready is loaded. Nothing happens if the
certificate is not due, and if it is due and cannot be issued, nothing but that. Otherwise the
backend is taken down, without the handler, and loaded again after a pause. -/
theorem check_is_all_or_nothing {s : Setting} (before : Reaches s.world w)
    (here : w.schedule.point? t = some (.asked entry .check))
    (renewable : (w.clock.addSecs? w.config.renewThreshold).isSome)
    (warnable : (w.clock.addSecs? w.config.warnThreshold).isSome) :
    (∃ moves w', w.after? (.turn t :: moves) = some w' ∧ (∀ m ∈ moves, m.Spares t) ∧
      w'.schedule.point? t = none) ∧
    ∀ moves w', w.after? (.turn t :: moves) = some w' → (∀ m ∈ moves, m.Spares t) →
      w'.schedule.point? t = none →
        ∃ v, (v.record (.done entry (.check w.verdict))).Lapse w' ∧ w.Leaves w.verdict v := by
  have turn : (Move.turn t).outcome? w = some (advance t (.asked entry .check) w) := by
    rw [Move.outcome?, here]
    rfl
  have began : Check.At t entry (Check.start w) (advance t (.asked entry .check) w) :=
    Check.at_advance before.background here rfl rfl
  refine ⟨?_, fun moves w' run spares finished => ?_⟩
  · obtain ⟨w', ⟨moves, run, leaves⟩, finished⟩ :
        ∃ w', LeadsTo t (advance t (.asked entry .check) w) w' ∧
          w'.schedule.point? t = none := by
      rcases first : Check.start w with ⟨u, p | outcome | _⟩
      · rw [first] at began
        exact Check.exists_end began.1
      · rw [first] at began
        exact ⟨_, .refl _, began.1⟩
      · rw [first] at began
        exact ⟨_, .refl _, began.1⟩
    refine ⟨moves, w', ?_, fun m there => (leaves m there).spares, finished⟩
    rw [World.after?, turn]
    exact run
  · obtain ⟨v, first, run⟩ := Option.bind_eq_some_iff.1 run
    cases turn.symm.trans first
    obtain ⟨x, alone, there⟩ := Check.exists_of_run .first began
      (before.background.step (Move.step turn)) spares run
    obtain ⟨v, rfl, left⟩ := (Check.stage_of_alone alone renewable warnable).ends
      fun u p waits => by
        rw [waits] at there
        cases finished.symm.trans there.1
    exact ⟨v, there.2, left⟩

end Tasks

/-- The first certificate lasts a day, so a check renews it. -/
theorem first_certificate_is_renewed : ∃ w w' v : World, ∃ moves,
    Setting.shortLived.world.after? (firstLoad ++ [.ask .check]) = some w ∧
      w.schedule.point? 3 = some (.asked 1 .check) ∧
      (w.clock.addSecs? w.config.renewThreshold).isSome ∧
      (w.clock.addSecs? w.config.warnThreshold).isSome ∧
      w.after? (.turn 3 :: moves) = some w' ∧
      (v.record (.done 1 (.check .renewed))).Lapse w' ∧ v.registrations = w.registrations + 1 := by
  have seen : (Setting.shortLived.world.after? (firstLoad ++ [.ask .check])).map (fun w =>
      (w.schedule.point? 3, (w.clock.addSecs? w.config.renewThreshold).isSome,
        (w.clock.addSecs? w.config.warnThreshold).isSome, w.verdict)) =
      some (some (.asked 1 .check), true, true, .renewed) := rfl
  obtain ⟨w, before, seen⟩ := Option.map_eq_some_iff.1 seen
  simp only [Prod.mk.injEq] at seen
  obtain ⟨here, renewable, warnable, verdict⟩ := seen
  obtain ⟨⟨moves, w', run, spares, finished⟩, ends⟩ :=
    check_is_all_or_nothing ⟨_, before⟩ here renewable warnable
  obtain ⟨v, left, renewed⟩ := ends moves w' run spares finished
  rw [verdict] at left renewed
  obtain ⟨a, down, up, -, reloads⟩ := renewed
  exact ⟨w, w', v, moves, before, here, renewable, warnable, run, left, reloads.once⟩

end TunnelKeeper.Coordinator
