import TunnelKeeper.Proofs.Deed

/-!
Every program of the coordinator does one deed between two of its points, and the task in which it
runs is at that program's job.
-/

namespace TunnelKeeper.Coordinator

open BackendState World

/-- The job of a task whose program has come so far. -/
def Progress.job {P R : Type} (f : P → Job) : Progress P R → Job
  | wait p => f p
  | done _ => .rest
  | panic => .rest

variable (t : TaskId) (o : Owner)

/-! ### Loading -/

namespace Load

lemma deed_start (free : o.isGuard = false) (w : World)
    (live : o = .handler → w.isCancelled t = false) :
    Deed t o w.outline .rest (start w).1.outline ((start w).2.job .load) := by
  unfold start
  by_cases idle : w.state.phase.Idle
  · rw [beginLoad_of_idle idle]
    dsimp only
    rw [outline_callRegister, outline_startHandler]
    exact .begin free live idle rfl
  · rw [beginLoad_of_not_idle idle]
    exact .rest

lemma deed_complete (p : LoadPoint) (r : CycleId) (w : World) :
    Deed t o w.outline (.load p) (complete p.generation r w).1.outline
      ((complete p.generation r w).2.job .load) := by
  unfold complete
  by_cases now : w.state = ⟨p.generation, .registering⟩
  · rw [now, setLoading_registering]
    dsimp only
    rw [outline_spawn]
    exact .registered r now
  · rw [setLoading_of_ne r now]
    exact .loadLate now

lemma deed_fail (p : LoadPoint) (e : BackendError) (w : World) :
    Deed t o w.outline (.load p) (fail p.generation e w).1.outline .rest := by
  unfold fail
  dsimp only
  rw [outline_withState (w.notice _), outline_notice]
  by_cases now : w.state = ⟨p.generation, .registering⟩
  · rw [show (w.notice _).state = _ from now, abandon_registering]
    exact .loadFailed now
  · rw [abandon_of_ne (by exact now)]
    exact .loadLate now

lemma deed_late (p : LoadPoint) {w : World} (late : ¬ w.state.IsCurrent p.generation) :
    Deed t o w.outline (.load p) w.outline .rest :=
  .loadLate fun now => late (eq_mk_iff.1 now).1

lemma deed_registered {p : LoadPoint} (closer : 1 < p.rank) (response : RegisterResponse)
    (w : World) :
    Deed t o w.outline (.load p) (registered p.generation response w).1.outline
      ((registered p.generation response w).2.job .load) := by
  unfold registered
  split
  · exact deed_fail t o p _ w
  · split
    · next current =>
      dsimp only
      rw [outline_callLoad, outline_createAuthority, outline_notice]
      exact .loadOn rfl closer current
    · next late => exact deed_late t o p late

lemma deed_certificateLoaded {p : LoadPoint} (closer : 0 < p.rank) (r : CycleId) (w : World) :
    Deed t o w.outline (.load p) (certificateLoaded p.generation r w).1.outline
      ((certificateLoaded p.generation r w).2.job .load) := by
  unfold certificateLoaded
  split
  · next current =>
    split
    · exact deed_complete t o p r w
    · split
      · exact .loadOn rfl closer current
      · exact deed_complete t o p r w
  · next late => exact deed_late t o p late

lemma deed_resume (p : LoadPoint) (w : World) :
    Deed t o w.outline (.load p) (resume p w).1.outline ((resume p w).2.job .load) := by
  cases p with
  | register g call deadline =>
    rw [resume]
    split
    · split
      · exact deed_registered t o (p := .register g call deadline) Nat.one_lt_two _ w
      · exact deed_fail t o (.register g call deadline) _ w
    · exact deed_fail t o (.register g call deadline) _ w
  | certificate g r call =>
    rw [resume]
    split
    · exact deed_certificateLoaded t o (p := .certificate g r call) Nat.one_pos r (w.loadArrived r)
    · exact deed_certificateLoaded t o (p := .certificate g r call) Nat.one_pos r (w.notice _)
  | reset g r call =>
    have arrived : ∀ v : World, v.outline = w.outline →
        Deed t o w.outline (.load (.reset g r call))
          (if v.state.IsCurrent g then complete g r v else (v, .done ())).1.outline
          ((if v.state.IsCurrent g then complete g r v else (v, .done ())).2.job .load) := by
      intro v same
      rw [← same]
      split
      · exact deed_complete t o (.reset g r call) r v
      · next late => exact deed_late t o (.reset g r call) late
    rw [resume]
    cases call.answer with
    | ok _ => exact arrived _ rfl
    | error e => exact arrived _ rfl

end Load

/-! ### Setup -/

namespace Setup

lemma deed_harden {p : SetupPoint} (early : p.tunnel? = none) (closer : 3 < p.step.rank)
    (w : World) :
    Deed t o w.outline (.setup p) (harden p w).1.outline ((harden p w).2.job .setup) :=
  .setupOn (.harden w.callHarden.1) early rfl fun _ => closer

lemma deed_stall (p : SetupPoint) (said : Bool) {c : Outline} {w : World}
    (current : said → c.state.IsCurrent p.generation) (same : w.state = c.state)
    (after : w.outline = c.hearIf said (.message .setupFailed))
    (failed : ∀ n call, p.step = .startTunnel n call → call.answer ≠ .ok ())
    (kept : ∀ n call, p.step ≠ .discard n call) :
    Deed t o c (.setup p) (stall p w).1.outline ((stall p w).2.job .setup) := by
  unfold stall
  dsimp only
  rw [outline_withState w, after, same]
  exact .stalled said current failed kept

lemma deed_awaitRuntime {p : SetupPoint} (early : p.tunnel? = none) (closer : 2 < p.step.rank)
    (w : World) :
    Deed t o w.outline (.setup p) (awaitRuntime t p w).1.outline
      ((awaitRuntime t p w).2.job .setup) := by
  unfold awaitRuntime
  rw [askRuntimeReady]
  cases there : w.runtimeReady with
  | true => exact .setupOn (.build _) early rfl fun _ => closer
  | false =>
    dsimp only
    split
    · refine .setupOn (.pause _) early rfl fun ready => ?_
      cases there.symm.trans ready
    · next late => exact .setupLate early late

lemma deed_issued {p : SetupPoint} (early : p.tunnel? = none) (closer : 3 < p.step.rank)
    (answer : Except CertificateError Issue) (w : World) :
    Deed t o w.outline (.setup p) (issued p answer w).1.outline
      ((issued p answer w).2.job .setup) := by
  unfold issued
  cases answer with
  | ok issue =>
    dsimp only
    split
    · next current => exact .certified (.harden _) early rfl closer current
    · next late => exact .setupLate early late
  | error e =>
    dsimp only
    split
    · next current =>
      refine deed_stall t o p true (fun _ => current) rfl rfl (fun n call here => ?_)
        fun n call here => ?_
      · rw [SetupPoint.tunnel?, here] at early
        cases early
      · rw [SetupPoint.tunnel?, here] at early
        cases early
    · next late => exact .setupLate early late

lemma announce_eq (p : SetupPoint) (w : World) :
    (announce p w).1.outline =
      (w.outline.hear (.signal .backendUp)).delegateIf w.autostart ∧
      (announce p w).2 = .done () := by
  have asked (v : World) (same : v.autostart = w.autostart) :
      v.askAutostart = (w.autostart, v.record (.autostart w.autostart)) := by
    rw [askAutostart, same]
  unfold announce
  dsimp only
  rw [asked ((w.notice _).signal _) rfl]
  cases w.autostart with
  | false => exact ⟨rfl, rfl⟩
  | true =>
    dsimp only
    rw [outline_spawn]
    exact ⟨rfl, rfl⟩

lemma deed_started {p : SetupPoint} {n : TunnelId} {call : Call (Except TransportError Unit)}
    (here : p.step = .startTunnel n call) (ok : call.answer = .ok ()) (w : World) :
    Deed t o w.outline (.setup p) (started p n w).1.outline ((started p n w).2.job .setup) := by
  unfold started
  dsimp only
  by_cases now : ∃ r, w.state = ⟨p.generation, .loading r⟩
  · obtain ⟨r, now⟩ := now
    rw [show (w.startArrived n).state = _ from now, setReady_loading]
    dsimp only
    rw [(announce_eq p _).1, (announce_eq p _).2]
    exact .up r w.autostart here ok now
  · have late : ∀ r, w.state ≠ ⟨p.generation, .loading r⟩ := fun r h => now ⟨r, h⟩
    rw [setReady_of_ne n (by exact late)]
    exact .discard _ here ok late

lemma deed_resume (p : SetupPoint) (w : World) :
    Deed t o w.outline (.setup p) (resume t p w).1.outline ((resume t p w).2.job .setup) := by
  obtain ⟨g, r, step⟩ := p
  cases step with
  | start =>
    unfold resume
    dsimp only
    split
    · exact deed_harden t o (p := ⟨g, r, .start⟩) rfl (Nat.lt_succ_of_lt (Nat.lt_succ_self 3)) w
    · exact .setupOn (.issue _) rfl rfl fun _ => Nat.lt_succ_self 4
  | issue call =>
    exact deed_issued t o (p := ⟨g, r, .issue call⟩) rfl (Nat.lt_succ_self 3) call.answer w
  | harden call =>
    have arrived : ∀ v : World, v.outline = w.outline → _ := fun v same =>
      same ▸ deed_awaitRuntime t o (p := ⟨g, r, .harden call⟩) rfl (Nat.lt_succ_self 2) v
    unfold resume
    dsimp only
    split
    · exact arrived w rfl
    · exact arrived _ rfl
  | pause due =>
    exact deed_awaitRuntime t o (p := ⟨g, r, .pause due⟩) rfl (Nat.lt_succ_self 2) w
  | build answer =>
    cases answer with
    | error e => exact deed_stall t o _ false nofun rfl rfl nofun nofun
    | ok _ => exact .tunnelMade _ _ rfl Nat.one_lt_two rfl
  | startTunnel n call =>
    unfold resume
    dsimp only
    split
    · next ok => exact deed_started t o rfl ok w
    · next failed =>
      refine deed_stall t o _ false nofun rfl rfl (fun n' call' here ok => ?_) nofun
      cases here
      cases ok.symm.trans failed
  | discard n stop =>
    unfold resume
    dsimp only
    rw [outline_stopArrived]
    exact .discarded rfl

end Setup

/-! ### Teardown -/

namespace Teardown

/-- The world once the backend has been taken away. -/
def taken (withHandler : Bool) (w : World) : World :=
  if withHandler then ({ w with state := w.state.take.2 } : World).cancelGuard.cancelHandler
  else ({ w with state := w.state.take.2 } : World).cancelGuard

lemma outline_taken (withHandler : Bool) (w : World) :
    (taken withHandler w).outline = w.outline.take withHandler := by
  cases withHandler with
  | false => exact outline_cancelGuard _
  | true => exact (outline_cancelHandler _).trans (congrArg _ (outline_cancelGuard _))

lemma start_of_ready {withHandler : Bool} {w : World} {r : CycleId} {n : TunnelId}
    (ready : w.state.phase = .ready r n) :
    start withHandler w = (((taken withHandler w).callStop n).2,
      .wait ⟨n, ((taken withHandler w).callStop n).1⟩) := by
  simp only [start, BackendState.take, ready]
  rfl

lemma start_of_unready {withHandler : Bool} {w : World}
    (unready : ∀ r n, w.state.phase ≠ .ready r n) :
    (start withHandler w).1.outline = (w.outline.take withHandler).hearIf
      w.state.phase.registration?.isSome (.signal .backendDown) ∧
    (start withHandler w).2 = .done () := by
  rw [← outline_taken]
  cases phase : w.state.phase with
  | ready r n => exact absurd phase (unready r n)
  | loading | stalled =>
    simp only [start, BackendState.take, phase]
    exact ⟨rfl, rfl⟩
  | registering | absent =>
    simp only [start, BackendState.take, phase, and_true]
    rfl

lemma deed_start {x : Job} (withHandler : Bool) (free : o.isGuard = false)
    (asked : x = if withHandler then .close else .rest) (w : World) :
    Deed t o w.outline x (start withHandler w).1.outline
      ((start withHandler w).2.job .teardown) := by
  by_cases ready : ∃ r n, w.state.phase = .ready r n
  · obtain ⟨r, n, ready⟩ := ready
    rw [start_of_ready ready]
    dsimp only
    rw [outline_callStop, outline_taken]
    exact .takeReady withHandler _ free asked ready
  · have unready : ∀ r n, w.state.phase ≠ .ready r n := fun r n h => ready ⟨r, n, h⟩
    rw [(start_of_unready unready).1, (start_of_unready unready).2]
    exact .take withHandler free asked unready

lemma deed_resume (p : TeardownPoint) (w : World) :
    Deed t o w.outline (.teardown p) (resume p w).1.outline ((resume p w).2.job .teardown) := by
  unfold resume announce
  dsimp only
  rw [outline_signal, outline_notice, outline_stopArrived]
  exact .stopped

end Teardown

/-! ### Connecting -/

namespace Refresh

lemma outline_resume (c : CycleId) (p : RefreshPoint) (w : World) :
    (resume t c p w).1.outline = w.outline ∧ (resume t c p w).2 ≠ .panic := by
  have left (answer : Answer) (v : World) (same : v.outline = w.outline) :
      (leave t c answer v).1.outline = w.outline ∧ (leave t c answer v).2 ≠ .panic :=
    ⟨(outline_leaveTokenLock v c t).trans same, fun h => by cases h⟩
  cases p with
  | lock =>
    rw [resume]
    split
    · exact left _ w rfl
    · exact ⟨rfl, fun h => by cases h⟩
  | request key call deadline =>
    rw [resume]
    split
    · split
      · exact left _ _ rfl
      · exact left _ w rfl
    · exact left _ w rfl

end Refresh

namespace Connect

lemma outline_finish (a : Attempt) (w : World) :
    (finish t a w).1.outline = w.outline.endAttempt t a := by
  unfold finish Outline.endAttempt
  dsimp only
  split
  · exact outline_leaveConnectLock _ _
  · rw [outline_startGuard, outline_leaveConnectLock]
    rfl

lemma deed_start (guarded : Bool) (owned : guarded = o.isGuard) (w : World)
    (live : guarded = true → w.isCancelled t = false) :
    Deed t o w.outline .rest (start t guarded w).1.outline
      ((start t guarded w).2.job .attempt) := by
  unfold start
  split
  · exact .rest
  · next active here =>
    split
    · exact .rest
    · exact .queue (a := ⟨active, guarded, .lock⟩) here rfl owned live

lemma deed_finish {a : Attempt} (failed : a.step.mayFail = true) {w v : World}
    (same : v.outline = w.outline) :
    Deed t o w.outline (.attempt a) (finish t a v).1.outline
      ((finish t a v).2.job .attempt) := by
  rw [outline_finish, same]
  exact .attemptOver failed

lemma deed_refreshed {a : Attempt} {p : RefreshPoint} (here : a.step = .refresh p) {w : World}
    (turn : Turn RefreshPoint Refresh.Answer) (same : turn.1.outline = w.outline)
    (calm : turn.2 ≠ .panic) :
    Deed t o w.outline (.attempt a) (refreshed t a turn).1.outline
      ((refreshed t a turn).2.job .attempt) := by
  have failed : a.step.mayFail = true := by
    rw [here]
    rfl
  obtain ⟨v, progress⟩ := turn
  dsimp only at same calm
  cases progress with
  | wait point => exact same ▸ .attemptOn point (.inl ⟨p, here⟩)
  | done answer =>
    cases answer with
    | ok token =>
      simp only [refreshed, connect]
      split
      · next current =>
        rw [← same]
        exact .dial token _ current ⟨p, here⟩
      · exact deed_finish t o failed same
    | error e => exact deed_finish t o failed same
  | panic => exact absurd rfl calm

lemma deed_connected {a : Attempt} {lasting : Bool} (here : a.step.success? = some lasting)
    (w : World) (live : a.guarded = true → w.isCancelled t = false) :
    Deed t o w.outline (.attempt a)
      (connected t a (w.connectArrived a.active.tunnel lasting)).1.outline
      ((connected t a (w.connectArrived a.active.tunnel lasting)).2.job .attempt) := by
  have state : (w.connectArrived a.active.tunnel lasting).state = w.state := by
    cases lasting <;> rfl
  unfold connected
  rw [state]
  split
  · next current =>
    rw [outline_finish, outline_signal, outline_notice, outline_connectArrived]
    exact .connected lasting current here live
  · next late =>
    rw [outline_finish, outline_connectArrived]
    exact .connectedLate lasting late here live

lemma deed_resume (a : Attempt) (w : World) :
    Deed t o w.outline (.attempt a) (resume t a w).1.outline ((resume t a w).2.job .attempt) := by
  obtain ⟨active, guarded, step⟩ := a
  have live (uncancelled : ¬ (guarded && w.isCancelled t) = true) :
      guarded = true → w.isCancelled t = false := fun guard => by
    rwa [guard, Bool.true_and, Bool.not_eq_true] at uncancelled
  cases step with
  | lock =>
    unfold resume
    dsimp only
    split
    · next cancelled =>
      have guard : guarded = true := (Bool.and_eq_true_iff.1 cancelled).1
      have := Deed.attemptOver (t := t) (o := o) (c := w.outline) (a := ⟨active, guarded, .lock⟩)
        rfl
      rw [Outline.endAttempt, if_pos (by exact guard)] at this
      rw [outline_leaveConnectLock]
      exact this
    · next uncancelled =>
      split
      · exact deed_finish t o rfl rfl
      · next down =>
        exact .attemptOn .lock (.inr ⟨rfl, live uncancelled, Bool.eq_false_iff.2 down⟩)
  | refresh point =>
    unfold resume
    dsimp only
    split
    · exact deed_finish t o rfl (outline_leaveTokenLock _ _ _)
    · exact deed_refreshed t o rfl _ (Refresh.outline_resume t _ _ w).1
        (Refresh.outline_resume t _ _ w).2
  | connect call =>
    obtain ⟨due, answer⟩ := call
    unfold resume
    cases answer with
    | error e => exact deed_finish t o rfl rfl
    | ok lasting =>
      dsimp only
      split
      · next cancelled =>
        obtain ⟨guard, cancelled⟩ := Bool.and_eq_true_iff.1 cancelled
        rw [outline_callDisconnect, outline_connectArrived]
        exact .undo lasting _ guard cancelled rfl
      · next uncancelled =>
        exact deed_connected t o (a := ⟨active, guarded, .connect ⟨due, .ok lasting⟩⟩) rfl w
          (live uncancelled)
  | undo call =>
    unfold resume
    dsimp only
    rw [outline_finish, disconnectArrived, outline_setConnected]
    exact .undone ⟨call, rfl⟩

/-- An attempt goes on, or it is over and reports nothing. -/
lemma wait_or_ok (a : Attempt) (w : World) :
    (∃ a', (resume t a w).2 = .wait a') ∨ (resume t a w).2 = .done .ok := by
  have refreshed_ends (turn : Turn RefreshPoint Refresh.Answer) (calm : turn.2 ≠ .panic) :
      (∃ a', (refreshed t a turn).2 = .wait a') ∨ (refreshed t a turn).2 = .done .ok := by
    obtain ⟨v, progress⟩ := turn
    cases progress with
    | wait p => exact .inl ⟨_, rfl⟩
    | done answer =>
      cases answer with
      | ok token =>
        simp only [refreshed, connect]
        split
        · exact .inl ⟨_, rfl⟩
        · exact .inr rfl
      | error e => exact .inr rfl
    | panic => exact absurd rfl calm
  unfold resume
  dsimp only
  split
  · split
    · exact .inr rfl
    · split
      · exact .inr rfl
      · exact .inl ⟨_, rfl⟩
  · split
    · exact .inr rfl
    · exact refreshed_ends _ (Refresh.outline_resume t _ _ w).2
  · split
    · exact .inr rfl
    · split
      · exact .inl ⟨_, rfl⟩
      · unfold connected
        split
        · exact .inr rfl
        · exact .inr rfl
  · exact .inr rfl

lemma deed_request (caller : String) (free : o.isGuard = false) (w : World) :
    Deed t o w.outline .rest (request t caller w).1.outline
      ((request t caller w).2.job .attempt) := by
  unfold request
  split
  · exact .rest
  · split
    · exact .rest
    · exact deed_start t o false free.symm (w.notice _) fun h => absurd h (by decide)

end Connect

/-! ### Disconnecting -/

namespace Disconnect

lemma deed_start (w : World) :
    Deed t o w.outline .hangUp (start w).1.outline ((start w).2.job .disconnect) := by
  unfold start
  split
  · next unready => exact .stay unready
  · next active ready =>
    have tunnels : w.cancelGuard.isConnected active.tunnel = w.isConnected active.tunnel :=
      congrArg (Outline.isConnected · active.tunnel) w.outline_cancelGuard
    dsimp only
    rw [tunnels]
    split
    · rw [outline_callDisconnect, outline_cancelGuard]
      exact .hangUp (p := ⟨active.tunnel, _⟩) ready rfl
    · next down =>
      rw [outline_cancelGuard]
      exact .release ready (Bool.eq_false_iff.2 down)

lemma deed_resume (p : DisconnectPoint) (w : World) :
    Deed t o w.outline (.disconnect p) (resume p w).1.outline
      ((resume p w).2.job .disconnect) := by
  unfold resume
  rw [outline_signal, outline_notice, disconnectArrived, outline_setConnected]
  exact .hungUp

end Disconnect

/-! ### Checking the certificate -/

namespace Check

lemma deed_loading {x : Job} (goOn : LoadPoint → CheckPoint)
    (within : ∀ p, (goOn p).job = .load p) (outcome : CertificateCheck) {c : Outline}
    (turn : Turn LoadPoint Unit) (deed : Deed t o c x turn.1.outline (turn.2.job .load)) :
    Deed t o c x (loading goOn outcome turn).1.outline
      ((loading goOn outcome turn).2.job CheckPoint.job) := by
  obtain ⟨w, progress⟩ := turn
  cases progress with
  | wait p =>
    show Deed t o c x w.outline (goOn p).job
    rw [within p]
    exact deed
  | done => exact deed
  | panic => exact deed

lemma deed_tearingDown {x : Job} {c : Outline} (turn : Turn TeardownPoint Unit)
    (deed : Deed t o c x turn.1.outline (turn.2.job .teardown)) :
    Deed t o c x (tearingDown turn).1.outline ((tearingDown turn).2.job CheckPoint.job) := by
  obtain ⟨w, progress⟩ := turn
  cases progress with
  | wait p => exact deed
  | done => exact deed
  | panic => exact deed

lemma deed_start (free : o.isGuard = false) (w : World)
    (live : o = .handler → w.isCancelled t = false) :
    Deed t o w.outline .rest (start w).1.outline ((start w).2.job CheckPoint.job) := by
  unfold start
  split
  · exact deed_loading t o _ (fun _ => rfl) _ _ (Load.deed_start t o free w live)
  · dsimp only
    split
    · exact .rest
    · exact .rest
    · exact .rest

lemma deed_resume (free : o.isGuard = false) (p : CheckPoint) (w : World)
    (live : o = .handler → w.isCancelled t = false) :
    Deed t o w.outline p.job (resume p w).1.outline ((resume p w).2.job CheckPoint.job) := by
  cases p with
  | load p => exact deed_loading t o _ (fun _ => rfl) _ _ (Load.deed_resume t o p w)
  | issue r expire checked call =>
    rw [resume]
    split
    · next issue _ =>
      exact deed_tearingDown t o _ (Teardown.deed_start t o false free rfl (w.issueArrived r issue))
    · unfold failed
      split
      · exact .rest
      · exact .rest
      · exact .rest
  | teardown p => exact deed_tearingDown t o _ (Teardown.deed_resume t o p w)
  | settle due => exact deed_loading t o _ (fun _ => rfl) _ _ (Load.deed_start t o free w live)
  | reload p => exact deed_loading t o _ (fun _ => rfl) _ _ (Load.deed_resume t o p w)

end Check

end TunnelKeeper.Coordinator
