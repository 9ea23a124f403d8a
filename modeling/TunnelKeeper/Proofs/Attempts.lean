import TunnelKeeper.Proofs.Background
import TunnelKeeper.Proofs.Runs

/-!
Attempts to connect. An attempt that has got past the connect lock holds it, so attempts come one
after the other, whatever backends they are for. The tunnel of such an attempt is not connected
until the attempt connects it, and an attempt that is cancelled too late leaves it as it was.
-/

namespace TunnelKeeper.Coordinator

/-! ### The attempts that are under way -/

/-- The attempt that a task makes. -/
def Task.attempt? (task : Task) : Option Attempt :=
  match task.job with
  | .attempt a => some a
  | _ => none

lemma Task.attempt?_of_job {task : Task} {a : Attempt} (job : task.job = .attempt a) :
    task.attempt? = some a := by
  rw [attempt?, job]

/-- The attempt that goes on in a move. -/
def Move.attempt? (m : Move) (w : World) : Option Attempt :=
  match m with
  | turn t => w.schedule.point? t >>= Task.attempt?
  | _ => none

namespace World

variable {w : World} {t : TaskId} {a : Attempt}

/-- The attempts that are under way. -/
def attempts (w : World) : List Attempt := w.schedule.tasks.filterMap fun (_, task) => task.attempt?

lemma exists_attempt (at_it : w.outline.job t = .attempt a) :
    ∃ task, w.schedule.point? t = some task ∧ task.job = .attempt a := by
  cases here : w.schedule.point? t with
  | none =>
    rw [show w.outline.job t = jobOf _ from rfl, here] at at_it
    cases at_it
  | some task => exact ⟨task, rfl, (outline_job here).symm.trans at_it⟩

lemma mem_attempts (at_it : w.outline.job t = .attempt a) : a ∈ w.attempts := by
  obtain ⟨task, here, job⟩ := exists_attempt at_it
  exact List.mem_filterMap.2
    ⟨(t, task), Schedule.mem_of_point? here, Task.attempt?_of_job job⟩

lemma attempt?_turn (at_it : w.outline.job t = .attempt a) : (Move.turn t).attempt? w = some a := by
  obtain ⟨task, here, job⟩ := exists_attempt at_it
  rw [Move.attempt?, here]
  exact Task.attempt?_of_job job

end World

/-! ### Jobs of others -/

namespace Background

variable {c d : Outline} (h : Background c)
include h

lemma job_kept {t u : TaskId} {o : Owner} {x y : Job} (turned : Turned t o c x d y)
    (busy : c.job u ≠ .rest) : d.job u = c.job u := by
  have kept {d : Outline} {y : Job} (deed : Deed t o c x d y) : d.job u = c.job u := by
    rcases deed.roster with same | ⟨o', x', spawned, -⟩
    · rw [same]
    · rw [spawned, h.sound.job_spawn, if_neg]
      rintro rfl
      exact busy (h.sound.vacant _ (h.sound.fresh _ (Nat.le_refl _)))
  cases turned with
  | once deed => exact kept deed
  | andLost _ deed => exact (kept deed :)

end Background

/-! ### Connections -/

namespace Outline

variable (c : Outline) {n m : TunnelId}

lemma isConnected_setStage (n : TunnelId) (stage : TunnelStage) :
    (c.setStage n stage).isConnected = c.isConnected := by
  funext m
  unfold isConnected setStage modifyTunnel
  rw [List.getElem?_modify]
  cases c.tunnels[m]? with
  | none => rfl
  | some tunnel =>
    by_cases same : n = m <;> simp [same]

lemma isConnected_addTunnel (params : TunnelParams) :
    (c.addTunnel params).isConnected = c.isConnected := by
  funext m
  unfold isConnected addTunnel
  by_cases old : m < c.tunnels.length
  · rw [List.getElem?_append_left old]
  · have late : c.tunnels.length ≤ m := Nat.le_of_not_lt old
    rw [List.getElem?_append_right late, List.getElem?_eq_none late, List.getElem?_singleton]
    split <;> rfl

variable {c}

lemma isConnected_of_setConnected {connected : Bool}
    (up : (c.setConnected n connected).isConnected m = true) :
    if m = n then connected = true else c.isConnected m = true := by
  unfold isConnected setConnected modifyTunnel at up
  rw [List.getElem?_modify] at up
  unfold isConnected
  by_cases same : m = n
  · rw [if_pos same]
    cases there : c.tunnels[m]? with
    | none => simp [there] at up
    | some tunnel =>
      subst same
      simpa [there] using up
  · rw [if_neg same]
    cases there : c.tunnels[m]? with
    | none => simp [there] at up
    | some tunnel => simpa [there, Ne.symm same] using up

lemma isConnected_of_down (up : (c.setConnected n false).isConnected m = true) :
    m ≠ n ∧ c.isConnected m = true := by
  have after := isConnected_of_setConnected up
  split at after
  · cases after
  · next other => exact ⟨other, after⟩

lemma isConnected_down : (c.setConnected n false).isConnected n = false :=
  Bool.eq_false_iff.2 fun up => (isConnected_of_down up).1 rfl

lemma isConnected_of_connect {lasting : Bool} (up : (c.connect n lasting).isConnected m = true) :
    c.isConnected m = true ∨ m = n ∧ lasting = true := by
  cases lasting with
  | false => exact .inl up
  | true =>
    have after := isConnected_of_setConnected up
    split at after
    · next same => exact .inr ⟨same, rfl⟩
    · exact .inl after

end Outline

/-- What becomes of an attempt that has connected its tunnel: it ends in time or too late, or it
undoes the connection. -/
inductive Attempt.Ends (a : Attempt) (t : TaskId) (c : Outline) : Job → Prop where
  | inTime (current : c.state.IsCurrent a.active.generation)
      (live : a.guarded = true → c.isCancelled t = false) : a.Ends t c .rest
  | late (late : ¬ c.state.IsCurrent a.active.generation)
      (live : a.guarded = true → c.isCancelled t = false) : a.Ends t c .rest
  | undo (call : Call Unit) : a.Ends t c (.attempt { a with step := .undo call })

namespace Deed

variable {t : TaskId} {o : Owner} {c d : Outline} {x y : Job} {n : TunnelId}

/-- A tunnel has been connected before, or an attempt has connected it. -/
lemma isConnected_cases (deed : Deed t o c x d y) (up : d.isConnected n = true) :
    c.isConnected n = true ∨ ∃ a, x = .attempt a ∧ a.active.tunnel = n ∧
      a.step.success? = some true ∧ a.Ends t c y := by
  -- Only the answer to a call to connect brings a tunnel up.
  have dialled {a : Attempt} {lasting : Bool} {y : Job} (here : a.step.success? = some lasting)
      (up : (c.connect a.active.tunnel lasting).isConnected n = true) (ends : a.Ends t c y) :
      c.isConnected n = true ∨ ∃ a', Job.attempt a = .attempt a' ∧ a'.active.tunnel = n ∧
        a'.step.success? = some true ∧ a'.Ends t c y := by
    rcases Outline.isConnected_of_connect up with before | ⟨rfl, rfl⟩
    · exact .inl before
    · exact .inr ⟨a, rfl, rfl, here, ends⟩
  cases deed with
  | begin =>
    rw [Outline.begin_eq] at up
    exact .inl up
  | stalled said =>
    rw [Outline.hearIf_eq] at up
    exact .inl up
  | tunnelMade params =>
    exact .inl ((congrFun (c.isConnected_addTunnel params) n).symm.trans up)
  | @up p m _ _ autostart =>
    have up : (c.setStage m .running).isConnected n = true := by
      cases autostart <;> exact up
    rw [Outline.isConnected_setStage] at up
    exact .inl up
  | @discard p m =>
    have up : ((c.setStage m .running).setStage m .stopping).isConnected n = true := up
    rw [Outline.isConnected_setStage, Outline.isConnected_setStage] at up
    exact .inl up
  | discarded =>
    have before := (Outline.isConnected_of_down up).2
    rw [Outline.isConnected_setStage] at before
    exact .inl before
  | @takeReady _ _ m =>
    rw [Outline.take_eq] at up
    have up : ({ c with state := c.state.take.2 }.setStage m .stopping).isConnected n = true := up
    rw [Outline.isConnected_setStage] at up
    exact .inl up
  | take =>
    rw [Outline.hearIf_eq, Outline.take_eq] at up
    exact .inl up
  | @stopped p =>
    have up : ((c.setStage p.tunnel .stopped).setConnected p.tunnel false).isConnected n = true :=
      up
    have before := (Outline.isConnected_of_down up).2
    rw [Outline.isConnected_setStage] at before
    exact .inl before
  | attemptOver =>
    rw [Outline.endAttempt_eq] at up
    exact .inl up
  | connected lasting current here live =>
    rw [Outline.endAttempt_eq] at up
    exact dialled here up (.inTime current live)
  | connectedLate lasting late here live =>
    rw [Outline.endAttempt_eq] at up
    exact dialled here up (.late late live)
  | undo lasting call _ _ here => exact dialled here up (.undo call)
  | undone =>
    rw [Outline.endAttempt_eq] at up
    exact .inl (Outline.isConnected_of_down up).2
  | hungUp => exact .inl (Outline.isConnected_of_down up).2
  | _ => exact .inl up

lemma down_of_undo {a : Attempt} (here : ∃ call, a.step = .undo call)
    (deed : Deed t o c (.attempt a) d y) : d.isConnected a.active.tunnel = false ∧ y = .rest := by
  obtain ⟨call, here⟩ := here
  cases deed with
  | dropped _ _ checking => rcases checking with eq | ⟨p, eq⟩ | ⟨p, eq⟩ <;> cases eq
  | takeReady withHandler _ _ asked | take withHandler _ asked =>
    cases withHandler <;> cases asked
  | attemptOn _ early =>
    rcases early with ⟨p, early⟩ | ⟨early, -⟩ <;> cases here.symm.trans early
  | dial _ _ _ early => cases here.symm.trans early.choose_spec
  | attemptOver failed =>
    rw [here] at failed
    cases failed
  | connected _ _ success | connectedLate _ _ success | undo _ _ _ _ success =>
    rw [here] at success
    cases success
  | undone =>
    rw [Outline.endAttempt_eq]
    exact ⟨Outline.isConnected_down, rfl⟩

lemma eq_of_disconnect {p : DisconnectPoint} (deed : Deed t o c (.disconnect p) d y) :
    d = (c.setConnected p.tunnel false).hear (.signal .disconnected) := by
  cases deed with
  | dropped _ _ checking => rcases checking with eq | ⟨p, eq⟩ | ⟨p, eq⟩ <;> cases eq
  | takeReady withHandler _ _ asked | take withHandler _ asked =>
    cases withHandler <;> cases asked
  | hungUp => rfl

lemma down_of_disconnect {p : DisconnectPoint} (deed : Deed t o c (.disconnect p) d y) :
    d.isConnected p.tunnel = false := by
  rw [deed.eq_of_disconnect]
  exact Outline.isConnected_down

end Deed

lemma Turned.isConnected_cases {t : TaskId} {o : Owner} {c d : Outline} {x y : Job} {n : TunnelId}
    (turned : Turned t o c x d y) (up : d.isConnected n = true) :
    c.isConnected n = true ∨ ∃ a, x = .attempt a ∧ a.active.tunnel = n ∧
      a.step.success? = some true ∧ a.Ends t c y := by
  cases turned with
  | once deed => exact deed.isConnected_cases up
  | andLost _ deed => exact deed.isConnected_cases up

/-! ### The connect lock -/

/-- The attempt is about to connect its tunnel. -/
def AttemptStep.isDialling : AttemptStep → Bool
  | refresh _ => true
  | connect _ => true
  | _ => false

/-- Only attempts enter the connect lock and leave it. -/
lemma Deed.connectLock_cases {t : TaskId} {o : Owner} {c d : Outline} {x y : Job}
    (deed : Deed t o c x d y) :
    d.connectLock = c.connectLock ∨ d.connectLock = c.connectLock.enter t ∨
      d.connectLock = (c.connectLock.leave t).1 := by
  cases deed with
  | begin =>
    rw [Outline.begin_eq]
    exact .inl rfl
  | stalled said =>
    rw [Outline.hearIf_eq]
    exact .inl rfl
  | up _ autostart => cases autostart <;> exact .inl rfl
  | takeReady =>
    rw [Outline.take_eq]
    exact .inl rfl
  | take =>
    rw [Outline.hearIf_eq, Outline.take_eq]
    exact .inl rfl
  | queue => exact .inr (.inl rfl)
  | attemptOver | undone =>
    rw [Outline.endAttempt_eq]
    exact .inr (.inr rfl)
  | connected lasting | connectedLate lasting =>
    rw [Outline.endAttempt_eq, Outline.connect_eq]
    exact .inr (.inr rfl)
  | undo lasting =>
    rw [Outline.connect_eq]
    exact .inl rfl
  | _ => exact .inl rfl

lemma Turned.holder_of_ne {t u : TaskId} {o : Owner} {c d : Outline} {x y : Job}
    (turned : Turned t o c x d y) (held : c.connectLock.holder = some u) (other : u ≠ t) :
    d.connectLock.holder = some u := by
  have kept {d : Outline} {y : Job} (deed : Deed t o c x d y) :
      d.connectLock.holder = some u := by
    rcases deed.connectLock_cases with same | entered | left
    · rw [same, held]
    · rw [entered, Lock.holder_enter held]
    · rw [left, Lock.holder_leave_of_ne held other]
  cases turned with
  | once deed => exact kept deed
  | andLost _ deed => exact (kept deed :)

/-- Attempts to connect come one after the other, and only while their tunnels are down. -/
structure Outline.Orderly (c : Outline) : Prop where
  /-- An attempt that is past the lock holds it. -/
  holds : ∀ t a, c.job t = .attempt a → a.step ≠ .lock → c.connectLock.holder = some t
  /-- The tunnel that an attempt is about to connect is down. -/
  down : ∀ t a, c.job t = .attempt a → a.step.isDialling = true →
    c.isConnected a.active.tunnel = false

namespace Outline.Orderly

variable {c d : Outline} {t : TaskId} {o : Owner} {x y : Job}

/-- An attempt that is past the lock is the only one. -/
lemma alone (h : c.Orderly) {t u : TaskId} {a b : Attempt} (mine : c.job t = .attempt a)
    (inside : a.step ≠ .lock) (theirs : c.job u = .attempt b) (inside' : b.step ≠ .lock) :
    t = u :=
  Option.some.inj ((h.holds t a mine inside).symm.trans (h.holds u b theirs inside'))

lemma holds_deed (h : c.Orderly) (at_it : c.job t = x) (ready : c.Ready t) {a : Attempt}
    (deed : Deed t o c x d (.attempt a)) (inside : a.step ≠ .lock) :
    d.connectLock.holder = some t := by
  generalize after : Job.attempt a = y at deed
  cases deed with
  | queue _ lock =>
    cases after
    exact absurd lock inside
  | @attemptOn b point early =>
    cases after
    rcases early with ⟨p, early⟩ | ⟨early, live, -⟩
    · exact h.holds t b at_it (early ▸ nofun)
    · rcases ready b at_it early with held | ⟨guarded, cancelled⟩
      · exact held
      · cases (live guarded).symm.trans cancelled
  | @dial b _ _ _ early =>
    cases after
    exact h.holds t b at_it (early.choose_spec ▸ nofun)
  | @undo b lasting _ _ _ here =>
    cases after
    rw [Outline.connect_eq]
    refine h.holds t b at_it fun lock => ?_
    rw [lock] at here
    cases here
  | _ => cases after

/-- An attempt goes on to connect its tunnel as long as it is down. -/
lemma down_deed (h : c.Orderly) (at_it : c.job t = x) {a : Attempt}
    (deed : Deed t o c x d (.attempt a)) (dialling : a.step.isDialling = true) :
    c.isConnected a.active.tunnel = false := by
  generalize after : Job.attempt a = y at deed
  cases deed with
  | queue _ lock =>
    cases after
    rw [lock] at dialling
    cases dialling
  | @attemptOn b point early =>
    cases after
    rcases early with ⟨p, early⟩ | ⟨-, -, down⟩
    · exact h.down t b at_it (by rw [early]; rfl)
    · exact down
  | @dial b _ _ _ early =>
    cases after
    obtain ⟨p, early⟩ := early
    exact h.down t b at_it (by rw [early]; rfl)
  | undo =>
    cases after
    cases dialling
  | _ => cases after

lemma isDialling_iff {step : AttemptStep} (dialling : step.isDialling = true) : step ≠ .lock := by
  rintro rfl
  cases dialling

lemma pass (h : c.Orderly) (back : Background c) (at_it : c.job t = x) (ready : c.Ready t)
    (turned : Turned t o c x d y) : (d.pass t y).Orderly := by
  have past_lock {a : Attempt} {b : Bool} (here : a.step.success? = some b) : a.step ≠ .lock := by
    intro lock
    rw [lock] at here
    cases here
  -- Only the one that holds the lock connects a tunnel.
  have stays_down {u : TaskId} {a : Attempt} (theirs : c.job u = .attempt a)
      (dialling : a.step.isDialling = true) (down : c.isConnected a.active.tunnel = false)
      (other : u ≠ t) {d : Outline} {y : Job} (deed : Deed t o c x d y) :
      d.isConnected a.active.tunnel = false := by
    refine Bool.eq_false_iff.2 fun up => ?_
    rcases deed.isConnected_cases up with before | ⟨b, mine, -, here, -⟩
    · cases down.symm.trans before
    · exact other (h.alone theirs (isDialling_iff dialling) (at_it.trans mine) (past_lock here))
  refine ⟨fun u a after inside => ?_, fun u a after dialling => ?_⟩
  · by_cases same : u = t
    · subst same
      obtain rfl : y = .attempt a := (Roster.job_pass_self y).symm.trans after
      cases turned with
      | once deed => exact (h.holds_deed at_it ready deed inside :)
    · have after := (Roster.job_pass_of_ne same y).symm.trans after
      exact turned.holder_of_ne (h.holds u a (back.attempt_before turned after) inside) same
  · by_cases same : u = t
    · subst same
      obtain rfl : y = .attempt a := (Roster.job_pass_self y).symm.trans after
      cases turned with
      | once deed =>
        have down := h.down_deed at_it deed dialling
        refine Bool.eq_false_iff.2 fun up => ?_
        rcases deed.isConnected_cases up with before | ⟨b, -, -, -, ends⟩
        · cases down.symm.trans before
        · cases ends
          cases dialling
    · have after := (Roster.job_pass_of_ne same y).symm.trans after
      have before := back.attempt_before turned after
      have down := h.down u a before dialling
      cases turned with
      | once deed => exact (stays_down before dialling down same deed :)
      | andLost _ deed => exact (stays_down before dialling down same deed :)

/-- Whatever may happen, attempts come one after the other. -/
theorem step {calm : Prop} (h : c.Orderly) (back : Background c) (step : Step calm c d) :
    d.Orderly := by
  cases step with
  | turn own turned ending ready =>
    have passed := h.pass back rfl ready turned
    cases ending with
    | pass => exact passed
    | finish => exact ⟨passed.holds, passed.down⟩
  | outside happened =>
    have lock : d.connectLock = c.connectLock := by cases happened <;> rfl
    have up (n : TunnelId) (connected : d.isConnected n = true) : c.isConnected n = true := by
      cases happened with
      | drop n => exact (isConnected_of_down connected).2
      | _ => exact connected
    refine ⟨fun u a after inside => ?_, fun u a after dialling => Bool.eq_false_iff.2 fun on => ?_⟩
    · rw [lock]
      exact h.holds u a (back.attempt_of_outside happened after) inside
    · have down := h.down u a (back.attempt_of_outside happened after) dialling
      cases down.symm.trans (up _ on)

end Outline.Orderly

end TunnelKeeper.Coordinator
