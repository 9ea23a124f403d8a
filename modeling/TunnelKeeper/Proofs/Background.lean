import TunnelKeeper.Proofs.Turn

/-!
Who is in the two slots. A slot holds at most one of the tasks that go through it, and all others
that are still there have been cancelled. The guard in its slot watches the backend that is ready.
-/

namespace TunnelKeeper.Coordinator

/-! ### The roster -/

namespace Roster

variable {r : Roster} {t : TaskId}

/-- Tasks are numbered as they come, and one that is not there has no job. -/
structure Sound (r : Roster) : Prop where
  fresh : ∀ t, r.next ≤ t → r.owner t = none
  vacant : ∀ t, r.owner t = none → r.job t = .rest

namespace Sound

variable (sound : r.Sound)
include sound

lemma lt_next {o : Owner} (own : r.owner t = some o) : t < r.next := by
  by_contra late
  rw [sound.fresh t (Nat.le_of_not_lt late)] at own
  cases own

lemma owner_spawn (o : Owner) (x : Job) (t : TaskId) :
    (r.spawn o x).owner t = if t = r.next then some o else r.owner t := by
  unfold Roster.spawn
  dsimp only
  split
  · next h => rw [h, sound.fresh _ (Nat.le_refl _), Option.none_or]
  · exact Option.or_none

lemma job_spawn (o : Owner) (x : Job) (t : TaskId) :
    (r.spawn o x).job t = if t = r.next then x else r.job t := by
  unfold Roster.spawn
  dsimp only
  by_cases h : t = r.next
  · rw [if_pos ⟨h ▸ sound.fresh _ (Nat.le_refl _), h⟩, if_pos h]
  · rw [if_neg (fun both => h both.2), if_neg h]

/-- As if the number of a new task had been at its job. -/
lemma job_spawn_eq_pass (o : Owner) (x : Job) : (r.spawn o x).job = (r.pass r.next x).job := by
  funext t
  rw [sound.job_spawn]
  exact (Function.update_apply ..).symm

lemma job_spawn_rest (o : Owner) : (r.spawn o .rest).job = r.job := by
  funext t
  rw [sound.job_spawn]
  split
  · next new => rw [new, sound.vacant _ (sound.fresh _ (Nat.le_refl _))]
  · rfl

lemma spawn (o : Owner) (x : Job) : (r.spawn o x).Sound where
  fresh t late := by
    rw [sound.owner_spawn, if_neg (Nat.ne_of_gt late)]
    exact sound.fresh t (Nat.le_of_succ_le late)
  vacant t free := by
    rw [sound.owner_spawn] at free
    rw [sound.job_spawn]
    split at free
    · cases free
    · next h => rw [if_neg h, sound.vacant t free]

lemma pass {o : Owner} (own : r.owner t = some o) (x : Job) : (r.pass t x).Sound where
  fresh := sound.fresh
  vacant u free := by
    have other : u ≠ t := fun h => by cases (h ▸ free).symm.trans own
    rw [job_pass_of_ne other]
    exact sound.vacant u free

lemma remove (t : TaskId) : (r.remove t).Sound where
  fresh u late := by
    by_cases h : u = t
    · rw [h, owner_remove_self]
    · rw [owner_remove_of_ne h, sound.fresh u late]
  vacant u free := by
    by_cases h : u = t
    · rw [h]
      exact job_pass_self _
    · rw [owner_remove_of_ne h] at free
      exact (job_pass_of_ne h _).trans (sound.vacant u free)

end Sound

end Roster

/-! ### Slots -/

def Owner.isHandler : Owner → Bool
  | handler => true
  | _ => false

/-- A slot for the tasks that run for certain owners: it holds one of them, and the others have been
cancelled. -/
structure Manned (own : Owner → Bool) (slot : TaskSlot) (r : Roster) : Prop where
  occupant : ∀ t, slot.occupant = some t → (∃ o, r.owner t = some o ∧ own o) ∧ t ∉ slot.cancelled
  known : ∀ t o, r.owner t = some o → own o → slot.occupant = some t ∨ t ∈ slot.cancelled
  cancelled : ∀ t ∈ slot.cancelled, t < r.next ∧ ∀ o, r.owner t = some o → own o

namespace Manned

variable {own : Owner → Bool} {slot : TaskSlot} {r : Roster} (h : Manned own slot r)
include h

lemma spawn_other (sound : r.Sound) {o : Owner} (other : own o = false) (x : Job) :
    Manned own slot (r.spawn o x) where
  occupant t there := by
    obtain ⟨⟨o', known, mine⟩, live⟩ := h.occupant t there
    refine ⟨⟨o', ?_, mine⟩, live⟩
    rw [sound.owner_spawn, if_neg (Nat.ne_of_lt (sound.lt_next known)), known]
  known t o' known mine := by
    rw [sound.owner_spawn] at known
    split at known
    · cases known
      cases other.symm.trans mine
    · exact h.known t o' known mine
  cancelled t there := by
    obtain ⟨past, mine⟩ := h.cancelled t there
    refine ⟨Nat.lt_succ_of_lt past, fun o' known => mine o' ?_⟩
    rwa [sound.owner_spawn, if_neg (Nat.ne_of_lt past)] at known

lemma occupy (sound : r.Sound) {o : Owner} (mine : own o = true) (x : Job)
    (empty : slot.occupant = none) : Manned own (slot.occupy r.next) (r.spawn o x) where
  occupant t there := by
    obtain rfl := Option.some.inj there
    refine ⟨⟨o, ?_, mine⟩, fun cancelled => Nat.lt_irrefl _ (h.cancelled _ cancelled).1⟩
    rw [sound.owner_spawn, if_pos rfl]
  known t o' known mine := by
    rw [sound.owner_spawn] at known
    split at known
    · next new => exact .inl (new ▸ rfl)
    · rcases h.known t o' known mine with there | cancelled
      · cases empty.symm.trans there
      · exact .inr cancelled
  cancelled t there := by
    obtain ⟨past, mine⟩ := h.cancelled t there
    refine ⟨Nat.lt_succ_of_lt past, fun o' known => mine o' ?_⟩
    rwa [sound.owner_spawn, if_neg (Nat.ne_of_lt past)] at known

lemma cancel (sound : r.Sound) : Manned own slot.cancel r := by
  cases there : slot.occupant with
  | none =>
    rw [show slot.cancel = slot by rw [TaskSlot.cancel, there]]
    exact h
  | some t =>
    rw [show slot.cancel = ⟨none, t :: slot.cancelled⟩ by rw [TaskSlot.cancel, there]]
    obtain ⟨⟨o, known, mine⟩, -⟩ := h.occupant t there
    refine ⟨by simp, fun u o' known mine => .inr ?_, fun u cancelled => ?_⟩
    · rcases h.known u o' known mine with there' | cancelled
      · exact List.mem_cons.2 (.inl (Option.some.inj (there'.symm.trans there)))
      · exact List.mem_cons_of_mem _ cancelled
    · rcases List.mem_cons.1 cancelled with rfl | cancelled
      · refine ⟨sound.lt_next known, fun o' known' => ?_⟩
        exact Option.some.inj (known.symm.trans known') ▸ mine
      · exact h.cancelled u cancelled

lemma finish (t : TaskId) : Manned own (slot.finish t) (r.remove t) := by
  have cancelled := slot.cancelled_finish t
  refine ⟨fun u there => ?_, fun u o known mine => ?_, fun u there => ?_⟩
  · have other : u ≠ t ∧ slot.occupant = some u := by
      unfold TaskSlot.finish at there
      split at there
      · cases there
      · next not => exact ⟨fun same => not (same ▸ there), there⟩
    obtain ⟨⟨o, known, mine⟩, live⟩ := h.occupant u other.2
    exact ⟨⟨o, (Roster.owner_remove_of_ne other.1).trans known, mine⟩, cancelled ▸ live⟩
  · obtain ⟨other, known⟩ := Roster.of_owner_remove known
    rw [cancelled]
    refine (h.known u o known mine).imp_left fun there => ?_
    unfold TaskSlot.finish
    rw [if_neg fun same => other (Option.some.inj (there.symm.trans same))]
    exact there
  · rw [cancelled] at there
    obtain ⟨past, mine⟩ := h.cancelled u there
    exact ⟨past, fun o known => mine o (Roster.of_owner_remove known).2⟩

lemma finish_other {t : TaskId} {o : Owner} (known : r.owner t = some o) (other : own o = false) :
    slot.finish t = slot := by
  unfold TaskSlot.finish
  split
  · next there =>
    obtain ⟨⟨o', known', mine⟩, -⟩ := h.occupant t there
    cases known'.symm.trans known
    cases other.symm.trans mine
  · rfl

end Manned

/-! ### The two background tasks -/

/-- The background tasks of a world that can be reached. -/
structure Background (c : Outline) : Prop where
  sound : c.toRoster.Sound
  handler : Manned Owner.isHandler c.handlerSlot c.toRoster
  guard : Manned Owner.isGuard c.guardSlot c.toRoster
  /-- The guard in the slot watches the backend that is ready. -/
  ready : ∀ t, c.guardSlot.occupant = some t →
    c.owner t = some (.guard c.state.generation) ∧ c.state.active? ≠ none
  /-- A guard connects its own backend only. -/
  attempt : ∀ t o a, c.owner t = some o → c.job t = .attempt a →
    a.guarded = o.isGuard ∧ ∀ g, o = .guard g → a.active.generation = g

namespace Background

variable {c d : Outline} (h : Background c)
include h

/-- Tunnels, the connect lock and events do not matter here. -/
lemma congr (roster : d.toRoster = c.toRoster) (handlerSlot : d.handlerSlot = c.handlerSlot)
    (guardSlot : d.guardSlot = c.guardSlot) (state : d.state = c.state) : Background d := by
  obtain ⟨sound, handler, guard, ready, attempt⟩ := h
  obtain ⟨roster', state', handlerSlot', guardSlot', _, _, _⟩ := d
  subst roster handlerSlot guardSlot state
  exact ⟨sound, handler, guard, ready, attempt⟩

lemma no_guard (unready : c.state.active? = none) : c.guardSlot.occupant = none :=
  Option.eq_none_iff_forall_ne_some.2 fun t there => (h.ready t there).2 unready

/-- The state may change as long as no backend is ready. -/
lemma withState (unready : c.state.active? = none) (s : State) :
    Background { c with state := s } where
  sound := h.sound
  handler := h.handler
  guard := h.guard
  ready _ there := absurd there (h.no_guard unready ▸ nofun)
  attempt := h.attempt

/-- Only the two background tasks are ever cancelled. -/
lemma owner_of_cancelled {t : TaskId} {o : Owner} (cancelled : c.isCancelled t = true)
    (own : c.owner t = some o) : o.isHandler = true ∨ o.isGuard = true := by
  rcases Bool.or_eq_true_iff.1 cancelled with cancelled | cancelled
  · exact .inl ((h.handler.cancelled t (of_decide_eq_true cancelled)).2 o own)
  · exact .inr ((h.guard.cancelled t (of_decide_eq_true cancelled)).2 o own)

lemma inside_or_cancelled {t : TaskId} {o : Owner} (own : c.owner t = some o)
    (guard : o.isGuard = true) : c.guardSlot.occupant = some t ∨ c.isCancelled t = true :=
  (h.guard.known t o own guard).imp_right fun cancelled =>
    Bool.or_eq_true_iff.2 (.inr (decide_eq_true cancelled))

lemma cancelled_handler {t : TaskId} (own : c.owner t = some .handler)
    (cancelled : c.isCancelled t = true) : t ∈ c.handlerSlot.cancelled := by
  rcases Bool.or_eq_true_iff.1 cancelled with cancelled | cancelled
  · exact of_decide_eq_true cancelled
  · cases (h.guard.cancelled t (of_decide_eq_true cancelled)).2 _ own

lemma attempt_spawn (o : Owner) {x : Job} (idle : ∀ a, x ≠ .attempt a) (t : TaskId) (o' : Owner)
    (a : Attempt) (own : (c.toRoster.spawn o x).owner t = some o')
    (at_it : (c.toRoster.spawn o x).job t = .attempt a) :
    a.guarded = o'.isGuard ∧ ∀ g, o' = .guard g → a.active.generation = g := by
  rw [h.sound.owner_spawn] at own
  rw [h.sound.job_spawn] at at_it
  split at own
  · next new => exact absurd at_it (if_pos new ▸ idle a)
  · next old =>
    rw [if_neg old] at at_it
    exact h.attempt t o' a own at_it

lemma spawn_caller {x : Job} (idle : ∀ a, x ≠ .attempt a) : Background (c.spawn .caller x) where
  sound := h.sound.spawn _ _
  handler := h.handler.spawn_other h.sound rfl x
  guard := h.guard.spawn_other h.sound rfl x
  ready t there := by
    obtain ⟨own, active⟩ := h.ready t there
    refine ⟨?_, active⟩
    exact (h.sound.owner_spawn ..).trans ((if_neg (Nat.ne_of_lt (h.sound.lt_next own))).trans own)
  attempt := h.attempt_spawn .caller idle

lemma startHandler : Background c.startHandler := by
  unfold Outline.startHandler
  split
  · exact h
  · next idle =>
    have empty := Option.not_isSome_iff_eq_none.1 idle
    refine ⟨h.sound.spawn _ _, h.handler.occupy h.sound rfl .rest empty,
      h.guard.spawn_other h.sound rfl .rest, fun t there => ?_, h.attempt_spawn .handler nofun⟩
    obtain ⟨own, active⟩ := h.ready t there
    refine ⟨?_, active⟩
    exact (h.sound.owner_spawn ..).trans ((if_neg (Nat.ne_of_lt (h.sound.lt_next own))).trans own)

lemma startGuard (g : Nat) : Background (c.startGuard g) := by
  unfold Outline.startGuard
  split
  · exact h
  · next ready =>
    rw [Bool.or_eq_true, not_or] at ready
    obtain ⟨active, idle⟩ := ready
    rw [Option.isNone_iff_eq_none, ← ne_eq, BackendState.activeFor?_ne_none_iff] at active
    have ready : c.state.active? ≠ none := by
      obtain ⟨-, r, n, phase⟩ := active
      rw [BackendState.active?, phase]
      exact Option.some_ne_none _
    refine ⟨h.sound.spawn _ _, h.handler.spawn_other h.sound rfl .rest,
      h.guard.occupy h.sound rfl .rest (Option.not_isSome_iff_eq_none.1 idle), fun t there => ?_,
      h.attempt_spawn (.guard g) (by simp)⟩
    obtain rfl := Option.some.inj there
    refine ⟨((h.sound.owner_spawn ..).trans (if_pos rfl)).trans ?_, ready⟩
    exact congrArg (some <| Owner.guard ·) active.1.symm

lemma cancelHandler : Background c.cancelHandler :=
  ⟨h.sound, h.handler.cancel h.sound, h.guard, h.ready, h.attempt⟩

lemma cancelGuard (s : State) : Background { c with state := s }.cancelGuard where
  sound := h.sound
  handler := h.handler
  guard := h.guard.cancel h.sound
  ready t there := by
    have empty := TaskSlot.isRunning_cancel c.guardSlot
    rw [TaskSlot.isRunning, show c.guardSlot.cancel.occupant = _ from there] at empty
    cases empty
  attempt := h.attempt

lemma take (withHandler : Bool) : Background (c.take withHandler) := by
  cases withHandler with
  | false => exact h.cancelGuard _
  | true => exact (h.cancelGuard _).cancelHandler

lemma endAttempt (t : TaskId) (a : Attempt) : Background (c.endAttempt t a) := by
  have left : Background { c with connectLock := (c.connectLock.leave t).1 } :=
    h.congr rfl rfl rfl rfl
  unfold Outline.endAttempt
  dsimp only
  split
  · exact left
  · exact left.startGuard _

lemma hear (e : Event) : Background (c.hear e) := h.congr rfl rfl rfl rfl

lemma modifyTunnel (n : TunnelId) (f : Tunnel → Tunnel) : Background (c.modifyTunnel n f) :=
  h.congr rfl rfl rfl rfl

lemma hearIf (b : Bool) (e : Event) : Background (c.hearIf b e) := by
  cases b with
  | false => exact h
  | true => exact h.congr rfl rfl rfl rfl

lemma connect (n : TunnelId) (lasting : Bool) : Background (c.connect n lasting) := by
  cases lasting with
  | false => exact h
  | true => exact h.congr rfl rfl rfl rfl

/-- Whatever a task does between two points, the background tasks are as they should be. -/
lemma deed {t : TaskId} {o : Owner} {x y : Job} (deed : Deed t o c x d y) : Background d := by
  have unready_idle (idle : c.state.phase.Idle) : c.state.active? = none := by
    rcases Phase.idle_iff.1 idle with phase | ⟨r, phase⟩ <;> rw [BackendState.active?, phase]
  cases deed with
  | delegate => exact h.spawn_caller (by simp)
  | begin _ _ idle =>
    exact ((h.withState (unready_idle idle) _).startHandler).congr rfl rfl rfl rfl
  | loadFailed now => exact h.withState (by rw [now]; rfl) _
  | registered r now => exact (h.withState (by rw [now]; rfl) _).spawn_caller (by simp)
  | @stalled p said =>
    have heard := h.hearIf said (.message .setupFailed)
    have same : (c.hearIf said (.message .setupFailed)).state = c.state := by cases said <;> rfl
    by_cases now : ∃ r, c.state = ⟨p.generation, .loading r⟩
    · obtain ⟨r, now⟩ := now
      exact heard.withState (by rw [same, now]; rfl) _
    · rw [BackendState.setStalled_of_ne fun r eq => now ⟨r, eq⟩]
      exact heard.congr rfl rfl rfl same.symm
  | @up p n _ r autostart here ok now =>
    have unready : c.state.active? = none := by
      rw [now]
      rfl
    have up := ((h.withState unready ⟨p.generation, .ready r n⟩).modifyTunnel n
      fun tunnel => { tunnel with stage := .running }).hear (.signal .backendUp)
    cases autostart with
    | false => exact up
    | true => exact up.spawn_caller (by simp)
  | takeReady withHandler => exact ((h.take withHandler).modifyTunnel _ _).hear _
  | take withHandler => exact (h.take withHandler).hearIf _ _
  | attemptOver => exact h.endAttempt t _
  | connected lasting =>
    exact ((h.connect _ lasting).hear _).endAttempt t _
  | connectedLate lasting => exact (h.connect _ lasting).endAttempt t _
  | undo lasting => exact (h.connect _ lasting).hear _
  | undone => exact (h.modifyTunnel _ _).endAttempt t _
  | release => exact h.cancelGuard c.state
  | hangUp => exact (h.cancelGuard c.state).hear _
  | _ => exact h.congr rfl rfl rfl rfl

lemma turned {t : TaskId} {o : Owner} {x y : Job} (turned : Turned t o c x d y) :
    Background d := by
  cases turned with
  | once deed => exact h.deed deed
  | andLost _ deed => exact (h.deed deed).hear _

/-- A task goes on to another job, which is an attempt of its own if it is an attempt at all. -/
lemma pass {t : TaskId} {o : Owner} {x : Job} (own : c.owner t = some o)
    (mine : ∀ a, x = .attempt a →
      a.guarded = o.isGuard ∧ ∀ g, o = .guard g → a.active.generation = g) :
    Background (c.pass t x) where
  sound := h.sound.pass own x
  handler := ⟨h.handler.occupant, h.handler.known, h.handler.cancelled⟩
  guard := ⟨h.guard.occupant, h.guard.known, h.guard.cancelled⟩
  ready := h.ready
  attempt u o' a own' at_it := by
    by_cases same : u = t
    · subst same
      cases own.symm.trans own'
      exact mine a ((Roster.job_pass_self x).symm.trans at_it)
    · exact h.attempt u o' a own' ((Roster.job_pass_of_ne same x).symm.trans at_it)

lemma attempt_remove (t u : TaskId) (o : Owner) (a : Attempt)
    (own : (c.toRoster.remove t).owner u = some o)
    (at_it : (c.toRoster.remove t).job u = .attempt a) :
    a.guarded = o.isGuard ∧ ∀ g, o = .guard g → a.active.generation = g := by
  obtain ⟨other, own⟩ := Roster.of_owner_remove own
  exact h.attempt u o a own ((Roster.job_pass_of_ne other _).symm.trans at_it)

lemma finish (t : TaskId) : Background (c.finish t) where
  sound := h.sound.remove t
  handler := h.handler.finish t
  guard := h.guard.finish t
  ready u there := by
    obtain ⟨⟨o, own, -⟩, -⟩ := (h.guard.finish t).occupant u there
    obtain ⟨other, -⟩ := Roster.of_owner_remove own
    obtain ⟨own, active⟩ := h.ready u (TaskSlot.occupant_of_finish there)
    exact ⟨(Roster.owner_remove_of_ne other).trans own, active⟩
  attempt := h.attempt_remove t

lemma remove {t : TaskId} (own : c.owner t = some .caller) : Background (c.remove t) := by
  refine (h.finish t).congr rfl ?_ ?_ rfl
  · exact (h.handler.finish_other own rfl).symm
  · exact (h.guard.finish_other own rfl).symm

lemma attempt_of_deed {t : TaskId} {o : Owner} {x : Job} {a : Attempt} (own : c.owner t = some o)
    (at_it : c.job t = x) (deed : Deed t o c x d (.attempt a)) :
    a.guarded = o.isGuard ∧ ∀ g, o = .guard g → a.active.generation = g := by
  rcases deed.attempt_cases with ⟨active, owned, live⟩ | ⟨a', rfl, active, guarded⟩
  · refine ⟨owned, ?_⟩
    rintro g rfl
    -- The guard has not been cancelled, so it is in the slot, and its backend is the current one.
    rcases h.inside_or_cancelled own rfl with there | cancelled
    · obtain ⟨own', -⟩ := h.ready t there
      cases own.symm.trans own'
      rw [BackendState.active?_eq_some_iff.1 active]
    · cases (live owned).symm.trans cancelled
  · have mine := h.attempt t o a' own at_it
    rwa [active, guarded] at mine

lemma attempt_before {t u : TaskId} {o : Owner} {x y : Job} {a : Attempt}
    (turned : Turned t o c x d y) (at_it : d.job u = .attempt a) : c.job u = .attempt a := by
  have before {d : Outline} {y : Job} (deed : Deed t o c x d y) (at_it : d.job u = .attempt a) :
      c.job u = .attempt a := by
    rcases deed.roster with same | ⟨o', x', spawned, idle⟩
    · rwa [same] at at_it
    · rw [spawned, h.sound.job_spawn] at at_it
      split at at_it
      · rcases idle with rfl | ⟨p, r, -, -, -, rfl, -⟩ <;> cases at_it
      · exact at_it
  cases turned with
  | once deed => exact before deed at_it
  | andLost _ deed => exact before deed at_it

lemma job_of_outside (happened : Outside c d) (u : TaskId) : d.job u = c.job u ∨
    d.job u = .rest ∨ ∃ operation : Operation, d.job u = operation.job := by
  cases happened with
  | same | drop | host => exact .inl rfl
  | ask operation =>
    rw [show (c.spawn .caller operation.job).job u = _ from h.sound.job_spawn ..]
    split
    · exact .inr (.inr ⟨operation, rfl⟩)
    · exact .inl rfl
  | @giveUp t =>
    rw [show (c.remove t).job u = _ from Function.update_apply ..]
    split
    · exact .inr (.inl rfl)
    · exact .inl rfl

lemma attempt_of_outside {u : TaskId} {a : Attempt} (happened : Outside c d)
    (at_it : d.job u = .attempt a) : c.job u = .attempt a := by
  rcases h.job_of_outside happened u with same | rest | ⟨operation, asked⟩
  · exact same.symm.trans at_it
  · cases rest.symm.trans at_it
  · have at_it := asked.symm.trans at_it
    cases operation <;> cases at_it

/-- Whatever may happen, the background tasks are as they should be. -/
theorem step {calm : Prop} (step : Step calm c d) : Background d := by
  cases step with
  | turn own turned ending =>
    cases ending with
    | pass =>
      refine (h.turned turned).pass (turned.owner_of_some own) fun a after => ?_
      subst after
      cases turned with
      | once deed => exact h.attempt_of_deed own rfl deed
    | finish => exact (h.turned turned).finish _
  | outside happened =>
    cases happened with
    | same => exact h
    | ask operation =>
      refine h.spawn_caller fun a => ?_
      cases operation <;> nofun
    | giveUp own => exact h.remove own
    | drop n => exact h.modifyTunnel _ _
    | host => exact ⟨h.sound, h.handler, h.guard, h.ready, h.attempt⟩

end Background

lemma Setting.background (s : Setting) : Background s.world.outline where
  sound := ⟨fun _ _ => rfl, fun _ _ => rfl⟩
  handler := ⟨nofun, nofun, nofun⟩
  guard := ⟨nofun, nofun, nofun⟩
  ready := nofun
  attempt := nofun

/-- The background tasks are as they should be in every run. -/
theorem Reaches.background {s : Setting} {w : World} (run : Reaches s.world w) :
    Background w.outline :=
  run.keeps (P := fun w => Background w.outline) (fun move h => h.step (Move.step move))
    s.background

end TunnelKeeper.Coordinator
