import TunnelKeeper.Proofs.Background
import TunnelKeeper.Proofs.Runs

/-!
The two slots and the phase. The handler is in its slot from the first load until the backend is
closed, and the guard only while the backend that it watches is ready. Nobody leaves a slot unless
it is cancelled, as long as the handler does not panic.
-/

namespace TunnelKeeper.Coordinator

/-! ### How slots change -/

namespace Deed

variable {t : TaskId} {o : Owner} {c d : Outline} {x y : Job}

/-- The handler's slot is emptied when the backend is closed, and filled when a load begins. -/
lemma handlerSlot_cases (deed : Deed t o c x d y) :
    d.handlerSlot = c.handlerSlot ∨
      (d.handlerSlot = c.handlerSlot.cancel ∧ x = .close ∧ d.state = c.state.take.2) ∨
      (c.handlerSlot.occupant = none ∧ d.handlerSlot = c.handlerSlot.occupy c.next ∧
        d.state = c.state.beginLoad.2) := by
  cases deed with
  | begin _ _ idle =>
    rcases c.begin_cases with ⟨-, same⟩ | ⟨empty, spawned⟩
    · exact .inl (by rw [same])
    · refine .inr (.inr ⟨empty, ?_⟩)
      rw [BackendState.beginLoad_of_idle idle, spawned]
      exact ⟨rfl, rfl⟩
  | stalled said =>
    rw [Outline.hearIf_eq]
    exact .inl rfl
  | up _ autostart => cases autostart <;> exact .inl rfl
  | takeReady withHandler _ _ asked =>
    cases withHandler with
    | false => exact .inl rfl
    | true => exact .inr (.inl ⟨rfl, asked, rfl⟩)
  | take withHandler _ asked =>
    rw [Outline.hearIf_eq]
    cases withHandler with
    | false => exact .inl rfl
    | true => exact .inr (.inl ⟨rfl, asked, rfl⟩)
  | attemptOver | undone =>
    rw [Outline.endAttempt_eq]
    exact .inl rfl
  | connected lasting | connectedLate lasting =>
    rw [Outline.endAttempt_eq, Outline.connect_eq]
    exact .inl rfl
  | undo lasting =>
    rw [Outline.connect_eq]
    exact .inl rfl
  | _ => exact .inl rfl

/-- The guard's slot is emptied when somebody disconnects and when the backend is taken away, and
filled when an attempt to connect is over. -/
lemma guardSlot_cases (deed : Deed t o c x d y) :
    d.guardSlot = c.guardSlot ∨
      (d.guardSlot = c.guardSlot.cancel ∧ (x = .hangUp ∨ d.state = c.state.take.2)) ∨
      (c.guardSlot.occupant = none ∧ d.guardSlot = c.guardSlot.occupy c.next ∧
        ∃ a, x = .attempt a ∧ a.guarded = false ∧
          c.state.activeFor? a.active.generation ≠ none) := by
  have ended (c : Outline) (a : Attempt) : (c.endAttempt t a).guardSlot = c.guardSlot ∨
      (c.guardSlot.occupant = none ∧ (c.endAttempt t a).guardSlot = c.guardSlot.occupy c.next ∧
        ∃ a', Job.attempt a = .attempt a' ∧ a'.guarded = false ∧
          c.state.activeFor? a'.active.generation ≠ none) := by
    cases guarded : a.guarded with
    | true => exact .inl (by rw [c.endAttempt_of_guarded t guarded])
    | false =>
      rcases c.endAttempt_cases t a with same | ⟨empty, there, spawned⟩
      · exact .inl (by rw [same])
      · exact .inr ⟨empty, by rw [spawned], a, rfl, guarded, there⟩
  cases deed with
  | begin =>
    rw [Outline.begin_eq]
    exact .inl rfl
  | stalled said =>
    rw [Outline.hearIf_eq]
    exact .inl rfl
  | up _ autostart => cases autostart <;> exact .inl rfl
  | takeReady withHandler => cases withHandler <;> exact .inr (.inl ⟨rfl, .inr rfl⟩)
  | take withHandler =>
    rw [Outline.hearIf_eq]
    cases withHandler <;> exact .inr (.inl ⟨rfl, .inr rfl⟩)
  | release | hangUp => exact .inr (.inl ⟨rfl, .inl rfl⟩)
  | attemptOver => exact (ended c _).imp_right .inr
  | undone => exact (ended (c.setConnected _ false) _).imp_right .inr
  | connected lasting | connectedLate lasting =>
    rw [Outline.connect_eq]
    exact (ended _ _).imp_right .inr
  | undo lasting =>
    rw [Outline.connect_eq]
    exact .inl rfl
  | _ => exact .inl rfl

end Deed

namespace Turned

variable {t : TaskId} {o : Owner} {c d : Outline} {x y : Job}

lemma handlerSlot_cases (turned : Turned t o c x d y) :
    d.handlerSlot = c.handlerSlot ∨
      (d.handlerSlot = c.handlerSlot.cancel ∧ x = .close ∧ d.state = c.state.take.2) ∨
      (c.handlerSlot.occupant = none ∧ d.handlerSlot = c.handlerSlot.occupy c.next ∧
        d.state = c.state.beginLoad.2) := by
  cases turned with
  | once deed => exact deed.handlerSlot_cases
  | andLost _ deed => exact deed.handlerSlot_cases

lemma guardSlot_cases (turned : Turned t o c x d y) :
    d.guardSlot = c.guardSlot ∨
      (d.guardSlot = c.guardSlot.cancel ∧ (x = .hangUp ∨ d.state = c.state.take.2)) ∨
      (c.guardSlot.occupant = none ∧ d.guardSlot = c.guardSlot.occupy c.next ∧
        ∃ a, x = .attempt a ∧ a.guarded = false ∧
          c.state.activeFor? a.active.generation ≠ none) := by
  cases turned with
  | once deed => exact deed.guardSlot_cases
  | andLost _ deed => exact deed.guardSlot_cases

end Turned

/-! ### Who is over is not in a slot -/

namespace Background

variable {c d : Outline} {t : TaskId} {o : Owner} (h : Background c)
include h

lemma live_of_handler (there : c.handlerSlot.occupant = some t) : c.isCancelled t = false := by
  obtain ⟨⟨o, own, handler⟩, live⟩ := h.handler.occupant t there
  refine Bool.or_eq_false_iff.2 ⟨decide_eq_false live, decide_eq_false fun cancelled => ?_⟩
  have guard := (h.guard.cancelled t cancelled).2 o own
  cases o with
  | handler => cases guard
  | _ => cases handler

lemma live_of_guard (there : c.guardSlot.occupant = some t) : c.isCancelled t = false := by
  obtain ⟨⟨o, own, guard⟩, live⟩ := h.guard.occupant t there
  refine Bool.or_eq_false_iff.2 ⟨decide_eq_false fun cancelled => ?_, decide_eq_false live⟩
  have handler := (h.handler.cancelled t cancelled).2 o own
  cases o with
  | handler => cases guard
  | _ => cases handler

lemma handler_of_over {x : Job} (own : c.owner t = some o) (turned : Turned t o c x d .rest)
    (ended : o = .handler → c.isCancelled t = true) : d.handlerSlot.occupant ≠ some t := by
  intro there
  have kept : c.handlerSlot.occupant = some t := by
    rcases turned.handlerSlot_cases with same | ⟨cancelled, -⟩ | ⟨-, filled, -⟩
    · exact same ▸ there
    · cases (TaskSlot.occupant_cancel _).symm.trans (cancelled ▸ there)
    · rw [filled] at there
      obtain rfl := Option.some.inj there
      exact absurd (h.sound.lt_next own) (Nat.lt_irrefl _)
  obtain ⟨⟨o', own', handler⟩, -⟩ := h.handler.occupant t kept
  cases own.symm.trans own'
  cases o with
  | handler => cases (h.live_of_handler kept).symm.trans (ended rfl)
  | _ => cases handler

lemma guard_of_over {x : Job} (own : c.owner t = some o) (turned : Turned t o c x d .rest)
    (ended : ∀ g, o = .guard g → c.isCancelled t = true ∨ c.state.activeFor? g = none) :
    d.guardSlot.occupant ≠ some t := by
  intro there
  have kept : c.guardSlot.occupant = some t := by
    rcases turned.guardSlot_cases with same | ⟨cancelled, -⟩ | ⟨-, filled, -⟩
    · exact same ▸ there
    · cases (TaskSlot.occupant_cancel _).symm.trans (cancelled ▸ there)
    · rw [filled] at there
      obtain rfl := Option.some.inj there
      exact absurd (h.sound.lt_next own) (Nat.lt_irrefl _)
  obtain ⟨own', active⟩ := h.ready t kept
  cases own.symm.trans own'
  rcases ended _ rfl with cancelled | gone
  · cases (h.live_of_guard kept).symm.trans cancelled
  · obtain ⟨active, there⟩ := Option.ne_none_iff_exists'.1 active
    rw [BackendState.activeFor?, there, Option.filter_eq_none_iff] at gone
    refine gone active rfl (decide_eq_true ?_)
    rw [BackendState.active?_eq_some_iff.1 there]

lemma handlerSlot_of_ending {calm : Prop} (isCalm : calm) {x y : Job} {e : Outline}
    (own : c.owner t = some o) (turned : Turned t o c x d y) (ending : Ending calm t o c d y e) :
    e.handlerSlot = d.handlerSlot := by
  cases ending with
  | pass => rfl
  | finish handler guard =>
    exact TaskSlot.finish_of_ne (h.handler_of_over own turned fun o => handler o isCalm)

lemma guardSlot_of_ending {calm : Prop} {x y : Job} {e : Outline}
    (own : c.owner t = some o) (turned : Turned t o c x d y) (ending : Ending calm t o c d y e) :
    e.guardSlot = d.guardSlot := by
  cases ending with
  | pass => rfl
  | finish handler guard => exact TaskSlot.finish_of_ne (h.guard_of_over own turned guard)

end Background

/-! ### The handler and the phase -/

/-- Whatever the backend is up to, a handler is there for it. -/
def Outline.Handled (c : Outline) : Prop :=
  c.state.phase ≠ .absent → c.handlerSlot.occupant ≠ none

namespace Outline.Handled

variable {c d : Outline} (h : c.Handled)
include h

lemma turned {t : TaskId} {o : Owner} {x y : Job} (turned : Turned t o c x d y) : d.Handled := by
  have kept {d : Outline} {y : Job} (deed : Deed t o c x d y) : d.Handled := by
    cases deed with
    | begin =>
      -- Only here a backend comes to be, and the handler with it.
      intro _
      rcases c.begin_cases with ⟨there, same⟩ | ⟨-, spawned⟩
      · rw [same]
        exact Option.isSome_iff_ne_none.1 there
      · rw [spawned]
        exact Option.some_ne_none _
    | loadFailed => exact fun there => absurd rfl there
    | registered r now =>
      refine fun _ => h ?_
      rw [now]
      nofun
    | @stalled p said =>
      rw [Outline.hearIf_eq]
      intro there
      by_cases now : ∃ r, c.state = ⟨p.generation, .loading r⟩
      · obtain ⟨r, now⟩ := now
        refine h ?_
        rw [now]
        nofun
      · rw [BackendState.setStalled_of_ne fun r eq => now ⟨r, eq⟩] at there
        exact h there
    | up _ autostart _ _ now =>
      have before : c.handlerSlot.occupant ≠ none := by
        refine h ?_
        rw [now]
        nofun
      cases autostart <;> exact fun _ => before
    | takeReady withHandler =>
      rw [Outline.take_eq]
      exact fun there => absurd rfl there
    | take withHandler =>
      rw [Outline.hearIf_eq, Outline.take_eq]
      exact fun there => absurd rfl there
    | attemptOver | undone =>
      rw [Outline.endAttempt_eq]
      exact h
    | connected lasting | connectedLate lasting =>
      rw [Outline.endAttempt_eq, Outline.connect_eq]
      exact h
    | undo lasting =>
      rw [Outline.connect_eq]
      exact h
    | _ => exact h
  cases turned with
  | once deed => exact kept deed
  | andLost _ deed => exact (kept deed :)

lemma step {calm : Prop} (isCalm : calm) (back : Background c) (step : Step calm c d) :
    d.Handled := by
  cases step with
  | turn own turned ending =>
    intro there
    rw [back.handlerSlot_of_ending isCalm own turned ending]
    exact h.turned turned (ending.state ▸ there)
  | outside happened => cases happened <;> exact h

end Outline.Handled

/-! ### Who leaves a slot -/

/-- In this move somebody who asked for it begins to close the backend. -/
def Move.Closes (m : Move) (w : World) : Prop :=
  ∃ t entry operation, m = .turn t ∧ w.schedule.point? t = some (.asked entry operation) ∧
    (operation = .close ∨ operation = .stop)

/-- In this move somebody who asked for it begins to disconnect. -/
def Move.Disconnects (m : Move) (w : World) : Prop :=
  ∃ t entry, m = .turn t ∧ w.schedule.point? t = some (.asked entry .disconnect)

def Task.disconnects : Task → Bool
  | asked _ .disconnect => true
  | _ => false

lemma Task.disconnects_iff {task : Task} :
    task.disconnects = true ↔ ∃ entry, task = .asked entry .disconnect := by
  unfold disconnects
  split
  · next entry => exact iff_of_true rfl ⟨entry, rfl⟩
  · next other => exact iff_of_false nofun fun ⟨entry, same⟩ => other entry same

def Move.disconnects (m : Move) (w : World) : Bool :=
  match m with
  | turn t => (w.schedule.point? t).any Task.disconnects
  | _ => false

lemma Move.disconnects_iff {m : Move} {w : World} : m.disconnects w = true ↔ m.Disconnects w := by
  constructor
  · intro disconnects
    cases m with
    | turn t =>
      obtain ⟨task, here, asked⟩ := (Option.any_eq_true ..).1 disconnects
      obtain ⟨entry, rfl⟩ := Task.disconnects_iff.1 asked
      exact ⟨t, entry, rfl, here⟩
    | _ => cases disconnects
  · rintro ⟨t, entry, rfl, here⟩
    rw [disconnects, here]
    rfl

instance (m : Move) (w : World) : Decidable (m.Disconnects w) :=
  decidable_of_iff _ Move.disconnects_iff

namespace Background

variable {m : Move} {w w' : World} {t : TaskId} (h : Background w.outline)
include h

lemma handler_leaves (move : m.outcome? w = some w') (calm : ¬ m.panics w)
    (there : w.handlerSlot.occupant = some t) (gone : w'.handlerSlot.occupant ≠ some t) :
    m.Closes w ∧ w.TakesAway w' ∧ w'.handlerSlot.isCancelled t := by
  rcases Move.cases move with ⟨u, task, d, y, rfl, here, turned, ending⟩ | ⟨-, happened⟩
  · have after : w'.handlerSlot = d.handlerSlot :=
      h.handlerSlot_of_ending calm (World.outline_owner here) turned ending
    rcases turned.handlerSlot_cases with same | ⟨cancelled, closed, taken⟩ | ⟨empty, -⟩
    · exact absurd there (by rwa [after, same] at gone)
    · obtain ⟨entry, operation, rfl⟩ := Task.asked_of_job (.inl closed)
      refine ⟨⟨u, entry, operation, rfl, here, Operation.job_eq_close.1 closed⟩,
        ending.state.trans taken, ?_⟩
      rw [after, cancelled]
      exact decide_eq_true (TaskSlot.cancelled_cancel there)
    · cases empty.symm.trans there
  · exact absurd ((congrArg _ happened.same_slots.1).trans there) gone

lemma guard_leaves (move : m.outcome? w = some w')
    (there : w.guardSlot.occupant = some t) (gone : w'.guardSlot.occupant ≠ some t) :
    (m.Disconnects w ∨ w.TakesAway w') ∧ w'.guardSlot.isCancelled t := by
  rcases Move.cases move with ⟨u, task, d, y, rfl, here, turned, ending⟩ | ⟨-, happened⟩
  · have after : w'.guardSlot = d.guardSlot :=
      h.guardSlot_of_ending (World.outline_owner here) turned ending
    rcases turned.guardSlot_cases with same | ⟨cancelled, why⟩ | ⟨empty, -⟩
    · exact absurd there (by rwa [after, same] at gone)
    · refine ⟨why.imp (fun hangUp => ?_) ending.state.trans, ?_⟩
      · obtain ⟨entry, operation, rfl⟩ := Task.asked_of_job (.inr hangUp)
        obtain rfl := Operation.job_eq_hangUp.1 hangUp
        exact ⟨u, entry, rfl, here⟩
      · rw [after, cancelled]
        exact decide_eq_true (TaskSlot.cancelled_cancel there)
    · cases empty.symm.trans there
  · exact absurd ((congrArg _ happened.same_slots.2.1).trans there) gone

end Background

/-! ### After the backend has been closed -/

/-- Nothing is loaded, and nobody is in a slot. -/
def Outline.Quiet (c : Outline) : Prop :=
  c.state.phase = .absent ∧ c.handlerSlot.occupant = none ∧ c.guardSlot.occupant = none

namespace Outline.Quiet

variable {c d : Outline}

lemma of_close {t : TaskId} {y : Job} (turned : Turned t .caller c .close d y) : d.Quiet := by
  cases turned with
  | andLost attempt => cases attempt
  | once deed =>
    cases deed with
    | dropped handler => cases handler
    | takeReady withHandler _ _ asked =>
      cases withHandler with
      | false => cases asked
      | true => exact ⟨rfl, TaskSlot.occupant_cancel _, TaskSlot.occupant_cancel _⟩
    | take withHandler _ asked =>
      rw [Outline.hearIf_eq]
      cases withHandler with
      | false => cases asked
      | true => exact ⟨rfl, TaskSlot.occupant_cancel _, TaskSlot.occupant_cancel _⟩

lemma turned {t : TaskId} {o : Owner} {x y : Job} (quiet : c.Quiet) (turned : Turned t o c x d y)
    (still : d.state ≠ c.state.beginLoad.2) : d.Quiet := by
  obtain ⟨absent, handler, guard⟩ := quiet
  refine ⟨?_, ?_, ?_⟩
  · generalize after : d.state = s at still
    have shift : c.state.Shift s := after ▸ turned.shift
    cases shift with
    | same => exact absent
    | begin idle => exact absurd (by rw [BackendState.beginLoad_of_idle idle]) still
    | fail | take => rfl
    | registered _ now | stalled _ now | up _ _ now => cases absent.symm.trans now
  · rcases turned.handlerSlot_cases with same | ⟨cancelled, -⟩ | ⟨-, -, begun⟩
    · rw [same, handler]
    · rw [cancelled, TaskSlot.occupant_cancel]
    · exact absurd begun still
  · rcases turned.guardSlot_cases with same | ⟨cancelled, -⟩ | ⟨-, -, a, -, -, there⟩
    · rw [same, guard]
    · rw [cancelled, TaskSlot.occupant_cancel]
    · obtain ⟨-, r, n, ready⟩ := BackendState.activeFor?_ne_none_iff.1 there
      cases absent.symm.trans ready

lemma ending {calm : Prop} {t : TaskId} {o : Owner} {e : Outline} {y : Job} (quiet : d.Quiet)
    (ending : Ending calm t o c d y e) : e.Quiet := by
  obtain ⟨absent, handler, guard⟩ := quiet
  cases ending with
  | pass => exact ⟨absent, handler, guard⟩
  | finish =>
    refine ⟨absent, ?_, ?_⟩
    · exact (congrArg _ (TaskSlot.finish_of_ne (handler ▸ nofun))).trans handler
    · exact (congrArg _ (TaskSlot.finish_of_ne (guard ▸ nofun))).trans guard

lemma step {calm : Prop} (quiet : c.Quiet) (step : Step calm c d)
    (still : d.state ≠ c.state.beginLoad.2) : d.Quiet := by
  cases step with
  | turn own turned ending =>
    exact (quiet.turned turned (ending.state ▸ still)).ending ending
  | outside happened =>
    obtain ⟨handler, guard, state⟩ := happened.same_slots
    rwa [Quiet, handler, guard, state]

end Outline.Quiet

/-! ### The slots and the phase -/

/-- The slots are as the phase wants them. -/
structure World.SlotsAgree (w : World) : Prop where
  /-- The guard in its slot was started for the backend that is ready, and nobody cancelled it. -/
  guard : ∀ t, w.guardSlot.occupant = some t →
    (∃ p, w.schedule.point? t = some (.guard w.state.generation p)) ∧
      (∃ r n, w.state.phase = .ready r n) ∧ w.isCancelled t = false
  /-- Unless nothing is loaded, a handler is there that nobody cancelled. -/
  handler : w.state.phase ≠ .absent → ∃ t p, w.handlerSlot.occupant = some t ∧
    w.schedule.point? t = some (.handler p) ∧ w.isCancelled t = false
  /-- A guard connects no other backend than its own. -/
  attempt : ∀ t g a, w.schedule.point? t = some (.guard g (.attempt a)) → a.active.generation = g

lemma World.slotsAgree {w : World} (back : Background w.outline) (handled : w.outline.Handled) :
    w.SlotsAgree where
  guard t there := by
    obtain ⟨own, active⟩ := back.ready t there
    obtain ⟨active, ready⟩ := Option.ne_none_iff_exists'.1 active
    obtain ⟨task, here, own⟩ := Option.map_eq_some_iff.1 own
    refine ⟨?_, ⟨active.registration, active.tunnel, ?_⟩, back.live_of_guard there⟩
    · cases task with
      | guard g p =>
        obtain rfl := Owner.guard.inj own
        exact ⟨p, here⟩
      | _ => cases own
    · rw [show w.state = _ from BackendState.active?_eq_some_iff.1 ready]
  handler loaded := by
    obtain ⟨t, there⟩ := Option.ne_none_iff_exists'.1 (handled loaded)
    obtain ⟨⟨o, own, handler⟩, -⟩ := back.handler.occupant t there
    obtain ⟨task, here, rfl⟩ := Option.map_eq_some_iff.1 own
    cases task with
    | handler p => exact ⟨t, p, there, here, back.live_of_handler there⟩
    | _ => cases handler
  attempt t g a here :=
    (back.attempt t _ a (outline_owner here) (outline_job here)).2 g rfl

/-- **The slots agree with the phase.** As long as the handler does not panic, the guard in its slot
belongs to the backend that is ready, a handler is there whenever anything is loaded, and both leave
their slots only because they are cancelled: the guard when somebody disconnects or the backend is
taken away, the handler when the backend is closed. Then nobody is in a slot until the next load
begins. -/
theorem slots_agree_with_phase {s : Setting} {moves : List Move} {w : World}
    (run : s.world.after? moves = some w)
    (calm : s.world.Throughout (fun m v _ => ¬ m.panics v) moves) :
    w.SlotsAgree ∧
      (∀ (m : Move) (w' : World) t, m.outcome? w = some w' → w.guardSlot.occupant = some t →
        w'.guardSlot.occupant ≠ some t →
          (m.Disconnects w ∨ w.TakesAway w') ∧ w'.guardSlot.isCancelled t) ∧
      (∀ (m : Move) (w' : World) t, m.outcome? w = some w' → ¬ m.panics w →
        w.handlerSlot.occupant = some t → w'.handlerSlot.occupant ≠ some t →
          m.Closes w ∧ w.TakesAway w' ∧ w'.handlerSlot.isCancelled t) ∧
      ∀ (m : Move) (w' : World) more w'', m.outcome? w = some w' → m.Closes w →
        w'.after? more = some w'' → w'.Throughout (fun _ v v' => ¬ v.BeginsLoad v') more →
          w''.handlerSlot.occupant = none ∧ w''.guardSlot.occupant = none := by
  have back : Background w.outline := Reaches.background ⟨moves, run⟩
  have handled : w.outline.Handled := by
    have kept := calm.keeps (I := fun v => Background v.outline ∧ v.outline.Handled)
      (fun move calm h => ⟨h.1.step (Move.step move), h.2.step calm h.1 (Move.step move)⟩) run
    exact (kept ⟨s.background, fun loaded => absurd rfl loaded⟩).2
  refine ⟨World.slotsAgree back handled, fun m w' t => back.guard_leaves,
    fun m w' t => back.handler_leaves, ?_⟩
  rintro m w' more w'' move ⟨t, entry, operation, rfl, here, closing⟩ later still
  obtain ⟨task, d, y, here', turned, ending⟩ := World.turn_cases move
  cases here.symm.trans here'
  have closed : Outline.Quiet d := by
    have at_it : (Task.asked entry operation).job = .close := Operation.job_eq_close.2 closing
    rw [at_it] at turned
    exact .of_close turned
  refine (still.keeps (I := fun v => v.outline.Quiet) (fun {m v v'} move still quiet => ?_) later
    (closed.ending ending)).2
  refine quiet.step (Move.step move) fun begun => still ⟨?_, begun⟩
  rw [show v.state.phase = _ from quiet.1]
  trivial

/-- With a first backend, handler and guard are in their slots. -/
theorem slots_agree_for_firstBackend :
    ∃ w : World, ({} : Setting).world.after? firstBackend = some w ∧
      w.handlerSlot.occupant = some 1 ∧ w.guardSlot.occupant = some 4 ∧ w.SlotsAgree := by
  have seen : (({} : Setting).world.after? firstBackend).map (fun w =>
      (w.handlerSlot.occupant, w.guardSlot.occupant)) = some (some 1, some 4) := rfl
  obtain ⟨w, run, slots⟩ := Option.map_eq_some_iff.1 seen
  obtain ⟨handler, guard⟩ := Prod.mk.inj slots
  exact ⟨w, run, handler, guard, (slots_agree_with_phase run (by decide +kernel)).1⟩

end TunnelKeeper.Coordinator
