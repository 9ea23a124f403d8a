import TunnelKeeper.Proofs.Background
import TunnelKeeper.Proofs.Runs
import TunnelKeeper.Proofs.Voices

/-!
Work for a generation that is past. It goes on until it gets to its next point and beyond, but it
neither changes the state nor comes into a slot, and nobody hears of it. So whatever is heard of a
connection is heard while its backend is ready.
-/

namespace TunnelKeeper.Coordinator

/-! ### What is heard -/

/-- The user or the host hears of it. -/
def Event.isHeard : Event → Bool
  | signal _ => true
  | message _ => true
  | _ => false

def Event.isConnected : Event → Bool
  | signal .connected => true
  | _ => false

/-- The signals and messages so far, the latest first. -/
def Outline.heard (c : Outline) : List Event := c.events.filter Event.isHeard

def World.heard (w : World) : List Event := (w.trace.map Prod.snd).filter Event.isHeard

lemma World.outline_heard (w : World) : w.outline.heard = w.heard := by
  unfold Outline.heard heard outline
  rw [List.filter_filter]
  congr 1
  funext e
  cases e <;> rfl

/-! ### Inert deeds -/

/-- The state and the slots are as before, and nothing has been heard. -/
structure Inert (c d : Outline) : Prop where
  state : d.state = c.state
  handlerSlot : d.handlerSlot = c.handlerSlot
  guardSlot : d.guardSlot = c.guardSlot
  heard : d.heard = c.heard

lemma Inert.refl (c : Outline) : Inert c c := ⟨rfl, rfl, rfl, rfl⟩

namespace Deed

variable {t : TaskId} {o : Owner} {c d : Outline} {y : Job}

lemma inert_of_load {p : LoadPoint} (late : c.state.generation ≠ p.generation)
    (deed : Deed t o c (.load p) d y) : Inert c d := by
  cases deed with
  | dropped | loadLate => exact .refl c
  | loadOn _ _ current => exact absurd current late
  | loadFailed now | registered _ now => exact absurd (by rw [now]) late
  | takeReady withHandler _ _ asked | take withHandler _ asked =>
    cases withHandler <;> cases asked

lemma inert_of_setup {p : SetupPoint} (late : c.state.generation ≠ p.generation)
    (deed : Deed t o c (.setup p) d y) : Inert c d := by
  cases deed with
  | dropped | setupOn | setupLate => exact .refl c
  | certified _ _ _ _ current => exact absurd current late
  | stalled said current =>
    cases said with
    | true => exact absurd (current rfl) late
    | false =>
      rw [BackendState.setStalled_of_ne fun r eq => late (by rw [eq])]
      exact .refl c
  | up _ _ _ _ now => exact absurd (by rw [now]) late
  | tunnelMade | discard | discarded => exact ⟨rfl, rfl, rfl, rfl⟩
  | takeReady withHandler _ _ asked | take withHandler _ asked =>
    cases withHandler <;> cases asked

lemma inert_of_attempt {a : Attempt} (late : c.state.generation ≠ a.active.generation)
    (deed : Deed t o c (.attempt a) d y) : Inert c d := by
  have ended (c' : Outline) (inert : Inert c c') : Inert c (c'.endAttempt t a) := by
    rcases c'.endAttempt_cases t a with same | ⟨-, there, -⟩
    · rw [same]
      exact ⟨inert.state, inert.handlerSlot, inert.guardSlot, inert.heard⟩
    · rw [inert.state] at there
      exact absurd (BackendState.activeFor?_ne_none_iff.1 there).1 late
  have connect (lasting : Bool) : Inert c (c.connect a.active.tunnel lasting) := by
    rw [Outline.connect_eq]
    exact ⟨rfl, rfl, rfl, rfl⟩
  cases deed with
  | dropped | attemptOn => exact .refl c
  | dial _ _ current | connected _ current => exact absurd current late
  | attemptOver => exact ended c (.refl c)
  | connectedLate lasting => exact ended _ (connect lasting)
  | undo lasting =>
    obtain ⟨state, handlerSlot, guardSlot, heard⟩ := connect lasting
    exact ⟨state, handlerSlot, guardSlot, heard⟩
  | undone => exact ended _ ⟨rfl, rfl, rfl, rfl⟩
  | takeReady withHandler _ _ asked | take withHandler _ asked =>
    cases withHandler <;> cases asked

/-- A guard that has been cancelled, of a backend that is gone. -/
lemma inert_of_guard {g : Nat} (late : c.state.generation ≠ g) (cancelled : c.isCancelled t = true)
    (deed : Deed t (.guard g) c .rest d y) : Inert c d := by
  cases deed with
  | rest | queue => exact ⟨rfl, rfl, rfl, rfl⟩
  | dropped handler => cases handler
  | delegate free | begin free | takeReady _ _ free | take _ free => cases free
  | lost guard watched =>
    cases guard
    rcases watched with live | there
    · cases cancelled.symm.trans live
    · exact absurd (BackendState.activeFor?_ne_none_iff.1 there).1 late

end Deed

/-! ### Work for a generation -/

/-- The task is a load, a setup or an attempt to connect for a generation, or its guard. -/
inductive Task.WorksFor (g : Nat) : Task → Prop where
  | load {task : Task} {p : LoadPoint} (job : task.job = .load p) (here : p.generation = g) :
      task.WorksFor g
  | setup {p : SetupPoint} (here : p.generation = g) : (Task.setup p).WorksFor g
  | attempt {task : Task} {a : Attempt} (job : task.job = .attempt a)
      (here : a.active.generation = g) : task.WorksFor g
  | guard (p : GuardPoint) : (Task.guard g p).WorksFor g

namespace Background

variable {c d : Outline} {t : TaskId} (h : Background c)
include h

lemma cancelled_of_late {g : Nat} (own : c.owner t = some (.guard g))
    (late : c.state.generation ≠ g) : c.isCancelled t = true := by
  rcases h.inside_or_cancelled own rfl with there | cancelled
  · obtain ⟨own', -⟩ := h.ready t there
    cases own.symm.trans own'
    exact absurd rfl late
  · exact cancelled

lemma inert_of_attempt {o : Owner} {a : Attempt} {y : Job} (own : c.owner t = some o)
    (at_it : c.job t = .attempt a) (late : c.state.generation ≠ a.active.generation)
    (turned : Turned t o c (.attempt a) d y) : Inert c d := by
  cases turned with
  | once deed => exact deed.inert_of_attempt late
  | andLost attempt deed guard there =>
    rw [deed.attempt_keeps.1] at there
    rw [(h.attempt t o a own at_it).2 _ guard] at late
    exact absurd (BackendState.activeFor?_ne_none_iff.1 there).1 late

/-- Work for a generation that is past is inert. -/
lemma inert {task : Task} {g : Nat} {y : Job} (works : task.WorksFor g)
    (late : c.state.generation ≠ g) (own : c.owner t = some task.owner)
    (at_it : c.job t = task.job) (turned : Turned t task.owner c task.job d y) : Inert c d := by
  cases works with
  | load job here =>
    rw [job] at turned
    cases turned with
    | once deed => exact deed.inert_of_load (here ▸ late)
    | andLost attempt => cases attempt
  | setup here =>
    cases turned with
    | once deed => exact deed.inert_of_setup (here ▸ late)
    | andLost attempt => cases attempt
  | attempt job here =>
    rw [job] at turned at_it
    exact h.inert_of_attempt own at_it (here ▸ late) turned
  | guard p =>
    have resting (rest : p.job = .rest) : Inert c d := by
      rw [Task.job, rest] at turned
      cases turned with
      | once deed => exact deed.inert_of_guard late (h.cancelled_of_late own late)
      | andLost attempt => cases attempt
    cases p with
    | attempt a =>
      refine h.inert_of_attempt own at_it ?_ turned
      rwa [(h.attempt t _ a own at_it).2 g rfl]
    | _ => exact resting rfl

end Background

/-! ### Attempts -/

/-- The backend of an attempt to connect is the one that is ready, or its generation is past. -/
def Attempt.Fits (a : Attempt) (s : State) : Prop :=
  a.active.generation ≤ s.generation ∧
    (a.active.generation = s.generation → s.active? = some a.active)

lemma Attempt.Fits.shift {a : Attempt} {s s' : State} (fits : a.Fits s) (shift : s.Shift s') :
    a.Fits s' := by
  obtain ⟨le, ready⟩ := fits
  have unready (generation : s'.generation = s.generation) (other : s.active? = none) :
      a.Fits s' := by
    refine ⟨generation ▸ le, fun current => ?_⟩
    cases other.symm.trans (ready (current.trans generation))
  cases shift with
  | same => exact ⟨le, ready⟩
  | begin | take =>
    exact ⟨Nat.le_succ_of_le le, fun current => absurd le (current ▸ Nat.not_succ_le_self _)⟩
  | fail now | registered _ now | stalled _ now | up _ _ now =>
    exact unready rfl (by rw [BackendState.active?, now])

/-- All attempts to connect are for the backend that is ready, or for earlier ones. -/
def Outline.Attempts (c : Outline) : Prop := ∀ t a, c.job t = .attempt a → a.Fits c.state

namespace Outline.Attempts

variable {c d : Outline} (h : c.Attempts)
include h

lemma pass {t : TaskId} {o : Owner} {x y : Job} (back : Background c) (at_it : c.job t = x)
    (turned : Turned t o c x d y) : (d.pass t y).Attempts := by
  have fits (u : TaskId) (a : Attempt) (before : c.job u = .attempt a) : a.Fits d.state :=
    (h u a before).shift turned.shift
  intro u a after
  by_cases same : u = t
  · have after : y = .attempt a := by
      rw [same] at after
      exact (Roster.job_pass_self y).symm.trans after
    subst after
    cases turned with
    | once deed =>
      rcases deed.attempt_cases with ⟨active, -, -⟩ | ⟨a', rfl, active, -⟩
      · refine Attempt.Fits.shift ⟨?_, fun _ => active⟩ deed.shift
        have ready := BackendState.active?_eq_some_iff.1 active
        exact Nat.le_of_eq (congrArg BackendState.generation ready).symm
      · have fits := fits t a' at_it
        unfold Attempt.Fits at fits ⊢
        rwa [active] at fits
  · have after : d.job u = .attempt a := (Roster.job_pass_of_ne same y).symm.trans after
    exact fits u a (back.attempt_before turned after)

lemma step {calm : Prop} (back : Background c) (step : Step calm c d) : d.Attempts := by
  cases step with
  | turn own turned ending =>
    have passed := h.pass back rfl turned
    cases ending with
    | pass => exact passed
    | finish => exact passed
  | outside happened =>
    intro u a after
    rw [happened.same_slots.2.2]
    exact h u a (back.attempt_of_outside happened after)

end Outline.Attempts

/-- Attempts are for the backend that is ready, or for earlier ones, in every run. -/
theorem Reaches.attempts {s : Setting} {w : World} (run : Reaches s.world w) :
    w.outline.Attempts :=
  (run.keeps (P := fun w => Background w.outline ∧ w.outline.Attempts)
    (fun move h => ⟨h.1.step (Move.step move), h.2.step h.1 (Move.step move)⟩)
    ⟨s.background, nofun⟩).2

/-! ### Signals -/

/-- The backend of a generation comes up between two outlines, and the host hears of it. -/
structure Outline.BringsUp (g : Nat) (c d : Outline) : Prop where
  loading : ∃ r, c.state = ⟨g, .loading r⟩
  ready : ∃ r n, d.state = ⟨g, .ready r n⟩
  heard : d.heard = .signal .backendUp :: c.heard

namespace Deed

variable {t : TaskId} {o : Owner} {c d : Outline} {x y : Job}

lemma ready_cases {g : Nat} {r : CycleId} {n : TunnelId} (deed : Deed t o c x d y)
    (ready : d.state = ⟨g, .ready r n⟩) :
    d.state = c.state ∨ ∃ p call, x = .setup p ∧ p.step = .startTunnel n call ∧
      p.generation = g ∧ c.state = ⟨g, .loading r⟩ ∧ d.heard = .signal .backendUp :: c.heard := by
  cases deed with
  | begin =>
    rw [Outline.begin_eq] at ready
    cases ready
  | loadFailed | registered => cases ready
  | @stalled p said =>
    by_cases now : ∃ r, c.state = ⟨p.generation, .loading r⟩
    · obtain ⟨r, now⟩ := now
      rw [now, BackendState.setStalled_loading] at ready
      cases ready
    · exact .inl (by rw [BackendState.setStalled_of_ne fun r eq => now ⟨r, eq⟩])
  | @up p m call r' autostart here _ now =>
    cases autostart with
    | false =>
      cases ready
      exact .inr ⟨p, call, rfl, here, rfl, now, rfl⟩
    | true =>
      cases ready
      exact .inr ⟨p, call, rfl, here, rfl, now, rfl⟩
  | takeReady =>
    rw [Outline.take_eq] at ready
    cases ready
  | take =>
    rw [Outline.hearIf_eq, Outline.take_eq] at ready
    cases ready
  | attemptOver | undone =>
    rw [Outline.endAttempt_eq]
    exact .inl rfl
  | connected lasting | connectedLate lasting =>
    rw [Outline.endAttempt_eq, Outline.connect_eq]
    exact .inl rfl
  | undo lasting =>
    rw [Outline.connect_eq]
    exact .inl rfl
  | _ => exact .inl rfl

lemma connected_cases (deed : Deed t o c x d y) :
    d.heard.countP Event.isConnected = c.heard.countP Event.isConnected ∨
      ∃ a, x = .attempt a ∧ c.state.IsCurrent a.active.generation := by
  unfold Outline.heard
  rcases deed.events_cases with same | ⟨e, added, voice⟩
  · exact .inl (by rw [same])
  · rw [added]
    cases e with
    | signal signal =>
      cases signal with
      | connected =>
        obtain ⟨⟨a, rfl, inTime⟩, -⟩ := voice
        exact .inr ⟨a, rfl, inTime.current⟩
      | _ => exact .inl rfl
    | _ => exact .inl rfl

end Deed

lemma Turned.connected_cases {t : TaskId} {o : Owner} {c d : Outline} {x y : Job}
    (turned : Turned t o c x d y) :
    d.heard.countP Event.isConnected = c.heard.countP Event.isConnected ∨
      ∃ a, x = .attempt a ∧ c.state.IsCurrent a.active.generation := by
  cases turned with
  | once deed => exact deed.connected_cases
  | andLost _ deed => exact (deed.connected_cases :)

lemma Outside.heard {c d : Outline} (happened : Outside c d) : d.heard = c.heard := by
  cases happened <;> rfl

namespace Ending

variable {calm : Prop} {t u : TaskId} {o : Owner} {c d e : Outline} {y : Job}

lemma heard (ending : Ending calm t o c d y e) : e.heard = d.heard :=
  congrArg (List.filter Event.isHeard) ending.events

lemma handlerSlot_occupant (ending : Ending calm t o c d y e)
    (there : e.handlerSlot.occupant = some u) : d.handlerSlot.occupant = some u := by
  cases ending with
  | pass => exact there
  | finish => exact TaskSlot.occupant_of_finish there

lemma guardSlot_occupant (ending : Ending calm t o c d y e)
    (there : e.guardSlot.occupant = some u) : d.guardSlot.occupant = some u := by
  cases ending with
  | pass => exact there
  | finish => exact TaskSlot.occupant_of_finish there

end Ending

namespace World

/-- The state is as before, nobody has come into a slot, and nothing has been heard. -/
structure Unmoved (w w' : World) : Prop where
  state : w'.state = w.state
  handlerSlot : ∀ t, w'.handlerSlot.occupant = some t → w.handlerSlot.occupant = some t
  guardSlot : ∀ t, w'.guardSlot.occupant = some t → w.guardSlot.occupant = some t
  heard : w'.heard = w.heard

/-- How often the host has heard of a connection. -/
def connections (w : World) : Nat := w.heard.countP Event.isConnected

/-- The backend of a generation comes up between two worlds, and the host hears of it. -/
def BringsUp (g : Nat) (w w' : World) : Prop := w.outline.BringsUp g w'.outline

variable {w w' : World} {t : TaskId}

lemma unmoved_of_inert {o : Owner} {d : Outline} {calm : Prop} {y : Job}
    (inert : Inert w.outline d) (ending : Ending calm t o w.outline d y w'.outline) :
    w.Unmoved w' := by
  obtain ⟨state, handlerSlot, guardSlot, heard⟩ := inert
  refine ⟨ending.state.trans state, fun u there => ?_, fun u there => ?_, ?_⟩
  · rw [← show d.handlerSlot = w.handlerSlot from handlerSlot]
    exact ending.handlerSlot_occupant there
  · rw [← show d.guardSlot = w.guardSlot from guardSlot]
    exact ending.guardSlot_occupant there
  · rw [← outline_heard, ← outline_heard, ← heard]
    exact ending.heard

/-- A backend that is ready came up, or it has been ready before. -/
lemma ready_cases {m : Move} {g : Nat} (move : m.outcome? w = some w')
    (ready : ∃ r n, w'.state = ⟨g, .ready r n⟩) : w'.state = w.state ∨ w.BringsUp g w' := by
  rcases Move.cases move with ⟨t, task, d, y, rfl, here, turned, ending⟩ | ⟨-, happened⟩
  · have state : w'.state = d.state := ending.state
    rw [state] at ready ⊢
    cases turned with
    | once deed =>
      obtain ⟨r, n, ready⟩ := ready
      rcases deed.ready_cases ready with same | ⟨p, call, -, -, -, loading, heard⟩
      · exact .inl same
      · refine .inr ⟨⟨r, loading⟩, ⟨r, n, ?_⟩, ending.heard.trans heard⟩
        exact ending.state.trans ready
    | andLost at_it deed =>
      rw [at_it] at deed
      exact .inl deed.attempt_keeps.1
  · exact .inl happened.same_slots.2.2

/-- Who hears of a connection hears of a backend that is ready. -/
lemma connected_cases {m : Move} (fits : w.outline.Attempts) (move : m.outcome? w = some w')
    (more : w.connections < w'.connections) : ∃ t task a, m = .turn t ∧
      w.schedule.point? t = some task ∧ task.job = .attempt a ∧
      w.state = ⟨a.active.generation, .ready a.active.registration a.active.tunnel⟩ := by
  unfold connections at more
  rw [← outline_heard, ← outline_heard] at more
  rcases Move.cases move with ⟨t, task, d, y, rfl, here, turned, ending⟩ | ⟨-, happened⟩
  · rw [ending.heard] at more
    rcases turned.connected_cases with same | ⟨a, at_it, current⟩
    · exact absurd more (same ▸ Nat.lt_irrefl _)
    · refine ⟨t, task, a, rfl, here, at_it, ?_⟩
      have ready := (fits t a ((outline_job here).trans at_it)).2 current.symm
      exact BackendState.active?_eq_some_iff.1 ready
  · exact absurd more (happened.heard ▸ Nat.lt_irrefl _)

end World

/-- **Work for a past generation is inert.** -/
theorem past_generations_inert {s : Setting} {moves : List Move} {w : World}
    (run : s.world.after? moves = some w) :
    (∀ t task g w', w.schedule.point? t = some task → task.WorksFor g → w.state.generation ≠ g →
        (Move.turn t).outcome? w = some w' → w.Unmoved w') ∧
      ∀ (m : Move) (w' : World), m.outcome? w = some w' → w.connections < w'.connections →
        ∃ t task a, m = .turn t ∧ w.schedule.point? t = some task ∧ task.job = .attempt a ∧
          w.state = ⟨a.active.generation, .ready a.active.registration a.active.tunnel⟩ ∧
            s.world.Since (fun _ v v' => v.BringsUp a.active.generation v')
              (fun _ v v' => ¬ v.TakesAway v') moves := by
  have back : Background w.outline := Reaches.background ⟨moves, run⟩
  refine ⟨?_, ?_⟩
  · intro t task g w' here works late move
    obtain ⟨task', d, y, here', turned, ending⟩ := World.turn_cases move
    cases here.symm.trans here'
    exact World.unmoved_of_inert (back.inert works late (World.outline_owner here)
      (World.outline_job here) turned) ending
  · intro m w' move more
    obtain ⟨t, task, a, turn, here, job, ready⟩ :=
      World.connected_cases (Reaches.attempts ⟨moves, run⟩) move more
    refine ⟨t, task, a, turn, here, job, ready, ?_⟩
    have step {m : Move} {v v' : World} (move : m.outcome? v = some v')
        (ready : ∃ r n, v'.state = ⟨a.active.generation, .ready r n⟩) :
        (∃ r n, v.state = ⟨a.active.generation, .ready r n⟩) ∧ ¬ v.TakesAway v' ∨
          v.BringsUp a.active.generation v' := by
      rcases World.ready_cases move ready with same | up
      · refine .inl ⟨same ▸ ready, fun taken => ?_⟩
        exact Nat.succ_ne_self _ (congrArg BackendState.generation (taken.symm.trans same))
      · exact .inr up
    rcases World.throughout_or_since
      (P := fun _ v v' => v.BringsUp a.active.generation v') (Q := fun _ v v' => ¬ v.TakesAway v')
      step run ⟨_, _, ready⟩ with ⟨⟨_, _, initially⟩, -⟩ | since
    · cases congrArg BackendState.phase initially
    · exact since

/-- The last move of the first backend connects it, after it has come up. -/
theorem firstBackend_is_up_when_connected : ∃ w w' : World,
    ({} : Setting).world.after? firstBackend.dropLast = some w ∧
      (Move.turn 3).outcome? w = some w' ∧ w.connections < w'.connections ∧
      ({} : Setting).world.Since (fun _ v v' => v.BringsUp 1 v') (fun _ v v' => ¬ v.TakesAway v')
        firstBackend.dropLast := by
  have seen : (({} : Setting).world.after? firstBackend.dropLast).bind (fun w =>
      ((Move.turn 3).outcome? w).map fun w' => (w.connections, w'.connections,
        w.state.generation)) = some (0, 1, 1) := rfl
  obtain ⟨w, run, seen⟩ := Option.bind_eq_some_iff.1 seen
  obtain ⟨w', move, seen⟩ := Option.map_eq_some_iff.1 seen
  obtain ⟨before, seen⟩ := Prod.mk.inj seen
  obtain ⟨after, generation⟩ := Prod.mk.inj seen
  have more : w.connections < w'.connections := by
    rw [before, after]
    exact Nat.one_pos
  obtain ⟨t, task, a, -, -, -, ready, since⟩ := (past_generations_inert run).2 _ w' move more
  refine ⟨w, w', run, move, more, ?_⟩
  rwa [show a.active.generation = 1 from (congrArg _ ready).symm.trans generation] at since

end TunnelKeeper.Coordinator
