import TunnelKeeper.Proofs.Messages
import TunnelKeeper.Proofs.Stages

/-!
Loads that nothing disturbs. Whatever their collaborators answer, they take the one course that the
answers prescribe, and come to its end.
-/

namespace TunnelKeeper.Coordinator

open World Cooperative

/-! ### Letting a load be -/

/-- The task works for the current generation, as a load or as a setup. -/
def World.Works (w : World) (t : TaskId) : Prop := w.LoadsNow t ∨ w.SetsUpNow t

lemma World.works_iff {w : World} {t : TaskId} : w.Works t ↔
    (w.outline.job t).duty = some (.load, w.state.generation) ∨
      (w.outline.job t).duty = some (.setup, w.state.generation) :=
  or_congr loadsNow_iff setsUpNow_iff

instance (w : World) (t : TaskId) : Decidable (w.Works t) := decidable_of_iff _ works_iff.symm

/-- Time passes for somebody who waits for this, but not beyond what they wait for. -/
def Wait.Lasts (now later : Nat) : Wait → Prop
  | .time due => later ≤ due
  | .build => True
  | _ => later = now

instance (now later : Nat) (wait : Wait) : Decidable (wait.Lasts now later) := by
  unfold Wait.Lasts
  split <;> infer_instance

/-- A handler that has just been spawned. -/
def Task.isNewHandler : Task → Bool
  | handler .start => true
  | _ => false

/-- The move lets the load be that is under way. Only who works for it takes a turn, or a handler
that has just been spawned; time passes until who works goes on; TLS contexts are built, and the
host may change its mind. -/
def Move.LetsBe (m : Move) (w : World) : Prop :=
  match m with
  | turn t => w.Works t ∨ (w.schedule.point? t).any Task.isNewHandler = true
  | line _ => True
  | build => True
  | host _ _ => True
  | time now => ∀ x ∈ w.schedule.tasks, ∀ task ∈ w.schedule.point? x.1, w.Works x.1 →
      task.wait.Lasts w.now now
  | _ => False

instance (m : Move) (w : World) : Decidable (m.LetsBe w) := by
  unfold Move.LetsBe
  split <;> infer_instance

/-! ### Other moves -/

section Moves

variable {s : Setting} {w v v' : World} {entry : Nat} {t u : TaskId} {task : Task} {m : Move}
  {x : Affairs} {now now' : Nat}

lemma World.works_unique (run : Reaches s.world v) (mine : v.Works t) (theirs : v.Works u) :
    u = t := by
  have carried := run.loads.carried
  rcases works_iff.1 mine with mine | mine <;> rcases works_iff.1 theirs with theirs | theirs
  · exact carried.alone u t _ theirs mine
  · cases (carried.due t _ mine).symm.trans (carried.due u _ theirs)
  · cases (carried.due t _ mine).symm.trans (carried.due u _ theirs)
  · exact carried.alone u t _ theirs mine

lemma AtStage.works (at_it : AtStage w entry v t task) : v.Works t := by
  obtain ⟨here, stage, -⟩ := at_it
  cases stage with
  | register registering | certificate registering | reset registering =>
    exact .inl ⟨_, _, here, rfl, registering.current.symm⟩
  | start preparing | issue preparing | harden preparing | pause preparing | build preparing =>
    exact .inr ⟨_, here, preparing.current.symm⟩
  | startTunnel settingUp =>
    exact .inr ⟨_, here, settingUp.current.symm⟩

lemma World.not_works (run : Reaches s.world v) (idle : dutyOf v.state = none) (t : TaskId) :
    ¬ v.Works t := by
  intro works
  rcases works_iff.1 works with works | works
  · cases idle.symm.trans (run.loads.carried.due t _ works)
  · cases idle.symm.trans (run.loads.carried.due t _ works)

lemma Ended.not_works (ended : Ended w entry v.affairs) (run : Reaches s.world v) (t : TaskId) :
    ¬ v.Works t := by
  have state : v.state = ⟨w.state.generation + 1, w.outcome⟩ := ended.state
  refine World.not_works run ?_ t
  rw [state]
  unfold outcome
  split
  · rfl
  · split <;> rfl

lemma Stage.later (stage : Stage w entry x now task) (lasts : task.wait.Lasts now now') :
    Stage w entry x now' task := by
  cases stage with
  | start preparing cycles setup time tells =>
    exact .start preparing cycles setup (Eq.trans lasts time) tells
  | _ => constructor <;> assumption

/-- Who does not work for the load, but is let go on, does not touch its affairs. -/
lemma affairs_of_letsBe (move : m.outcome? v = some v') (letsBe : m.LetsBe v)
    (other : ∀ u, m = .turn u → ¬ v.Works u) :
    v'.affairs = v.affairs ∧ (v'.now = v.now ∨ m = .time v'.now) := by
  cases m with
  | turn u =>
    obtain ⟨task, here, -, rfl⟩ := exists_of_turn move
    have new : (v.schedule.point? u).any Task.isNewHandler = true :=
      letsBe.resolve_left (other u rfl)
    rw [here] at new
    rw [affairs_advance, now_advance]
    cases task with
    | handler p =>
      cases p with
      | start =>
        rw [show Task.resume u (.handler .start) v = Task.goOn .handler (Handler.night v) from rfl,
          Task.goOn_fst]
        unfold Handler.night
        dsimp only
        split <;> exact ⟨rfl, .inl rfl⟩
      | sleep | check => cases new
    | _ => cases new
  | build =>
    rw [Move.outcome?, finishBuild?] at move
    split at move
    · cases move
    · next u rest _ =>
      obtain rfl := Option.some.inj move
      refine ⟨rfl, .inl ?_⟩
      show (v.schedule.wake u).now = v.schedule.now
      rw [Schedule.wake_eq]
  | time now =>
    obtain ⟨-, move⟩ := Option.ite_none_right_eq_some.1 move
    obtain rfl := Option.some.inj move
    exact ⟨rfl, .inr rfl⟩
  | line | host =>
    obtain rfl := Option.some.inj move
    exact ⟨rfl, .inl rfl⟩
  | _ => exact letsBe.elim

/-- Until its own turn, the task stays at its stage. -/
lemma AtStage.of_letsBe (at_it : AtStage w entry v t task) (run : Reaches s.world v)
    (move : m.outcome? v = some v') (letsBe : m.LetsBe v) (other : m ≠ .turn t) :
    AtStage w entry v' t task := by
  have works := at_it.works
  obtain ⟨here, stage, early⟩ := at_it
  obtain ⟨affairs, time⟩ := affairs_of_letsBe move letsBe fun u turn theirs =>
    other (works_unique run works theirs ▸ turn)
  have lasts : task.wait.Lasts v.now v'.now := by
    rcases time with same | rfl
    · rw [same]
      cases wait : task.wait with
      | time due => exact early due wait
      | build => trivial
      | _ => rfl
    · exact letsBe (t, task) (Schedule.mem_of_point? here) task here works
  refine ⟨Move.point?_kept move here other (by cases stage <;> rfl),
    affairs ▸ stage.later lasts, fun due wait => ?_⟩
  rw [wait] at lasts
  exact lasts

/-- In its own turn, it comes to another stage, or the load has taken its course. -/
lemma AtStage.of_turn (at_it : AtStage w entry v t task) (run : Reaches s.world v)
    (turn : (Move.turn t).outcome? v = some v') : Ended w entry v'.affairs ∨
      ∃ u next, AtStage w entry v' u next ∧ (v.runtimeReady = true → next.left < task.left) := by
  obtain ⟨here, stage, early⟩ := at_it
  obtain ⟨task', here', ready, rfl⟩ := exists_of_turn turn
  cases here.symm.trans here'
  have fresh : v.schedule.point? v.schedule.next = none :=
    Option.map_eq_none_iff.1 (run.background.sound.fresh _ (Nat.le_refl _))
  have other : v.schedule.next ≠ t := by
    rintro rfl
    cases fresh.symm.trans here
  have follows : Follows w entry t v task.left (Task.resume t task v) := by
    cases task with
    | load entry' p =>
      obtain rfl : entry' = entry := by cases stage <;> rfl
      refine Load.follows_resume stage early ?_ fresh other
      exact (Bool.or_false _).symm.trans ready
    | setup p => exact Setup.follows_resume stage
    | _ => cases stage
  have point := point?_advance t task v
  have affairs := affairs_advance t task v
  have now := now_advance t task v
  have elsewhere {u : TaskId} (other : u ≠ t) := point?_advance_of_ne (w := v) other task
  rcases resumed : Task.resume t task v with ⟨c, _ | next⟩
  · rw [resumed] at follows affairs now
    simp only [resumed] at elsewhere
    refine follows.imp (fun ended => affairs ▸ ended) ?_
    rintro ⟨u, next, other, ⟨there, stage, early⟩, closer⟩
    exact ⟨u, next, ⟨(elsewhere other).trans there, affairs ▸ now ▸ stage, now ▸ early⟩, closer⟩
  · rw [resumed] at follows affairs now point
    obtain ⟨stage, early, closer⟩ := follows
    exact .inr ⟨t, next, ⟨point, affairs ▸ now ▸ stage, now ▸ early⟩, closer⟩

/-! ### Undisturbed runs -/

/-- Some moves that let the load be lead from one world to another. -/
def World.Undisturbed (v v' : World) : Prop :=
  ∃ moves, v.after? moves = some v' ∧ v.Throughout (fun m u _ => m.LetsBe u) moves

namespace World.Undisturbed

lemma refl (v : World) : v.Undisturbed v := ⟨[], rfl, trivial⟩

lemma cons {v'' : World} (move : m.outcome? v = some v'') (letsBe : m.LetsBe v)
    (more : v''.Undisturbed v') : v.Undisturbed v' := by
  obtain ⟨moves, run, all⟩ := more
  refine ⟨m :: moves, by rw [World.after?, move]; exact run, fun u there => ?_⟩
  cases move.symm.trans there
  exact ⟨letsBe, all⟩

lemma trans {v'' : World} (undisturbed : v.Undisturbed v') (more : v'.Undisturbed v'') :
    v.Undisturbed v'' := by
  obtain ⟨moves, run, all⟩ := undisturbed
  induction moves generalizing v with
  | nil => exact Option.some.inj run ▸ more
  | cons m moves ih =>
    obtain ⟨u, first, rest⟩ := Option.bind_eq_some_iff.1 run
    obtain ⟨letsBe, all⟩ := all u first
    exact .cons first letsBe (ih rest all)

lemma reaches (undisturbed : v.Undisturbed v') : Reaches v v' :=
  let ⟨moves, run, _⟩ := undisturbed
  ⟨moves, run⟩

end World.Undisturbed

/-- Wherever an undisturbed run comes to, the load is at a stage, or it has taken its course. -/
lemma stage_of_undisturbed (run : Reaches s.world v) (undisturbed : v.Undisturbed v')
    (before : Ended w entry v.affairs ∨ ∃ t task, AtStage w entry v t task) :
    Ended w entry v'.affairs ∨ ∃ t task, AtStage w entry v' t task := by
  obtain ⟨moves, after, all⟩ := undisturbed
  refine (all.keeps (I := fun v => Reaches s.world v ∧
    (Ended w entry v.affairs ∨ ∃ t task, AtStage w entry v t task)) ?_ after ⟨run, before⟩).2
  rintro m v v' move letsBe ⟨run, before⟩
  refine ⟨run.trans (.move move), ?_⟩
  rcases before with ended | ⟨t, task, at_it⟩
  · have same := (affairs_of_letsBe move letsBe fun u _ => ended.not_works run u).1
    exact .inl (same ▸ ended)
  · by_cases turn : m = .turn t
    · subst turn
      exact (at_it.of_turn run move).imp_right fun ⟨u, next, there, _⟩ => ⟨u, next, there⟩
    · exact .inr ⟨t, task, at_it.of_letsBe run move letsBe turn⟩

lemma AtStage.exists_turn (at_it : AtStage w entry v t task) (run : Reaches s.world v) :
    ∃ v', v.Undisturbed v' ∧ Reaches s.world v' ∧ AtStage w entry v' t task ∧
      v'.ready t task = true ∧ v'.runtimeReady = v.runtimeReady := by
  have arrived (v : World) (run : Reaches s.world v) (at_it : AtStage w entry v t task)
      (arrived : v.arrived t task.wait = true) : ∃ v', v.Undisturbed v' ∧ Reaches s.world v' ∧
        AtStage w entry v' t task ∧ v'.ready t task = true ∧ v'.runtimeReady = v.runtimeReady :=
    ⟨v, .refl v, run, at_it, Bool.or_eq_true_iff.2 (.inl arrived), rfl⟩
  cases wait : task.wait with
  | time due =>
    -- Nobody else works for the load, so time may pass up to the task's own hour.
    have early : v.now ≤ due := at_it.early due wait
    let later : World := { v with schedule := { v.schedule with now := due } }
    have passes : (Move.time due).outcome? v = some later := if_pos early
    have letsBe : (Move.time due).LetsBe v := by
      intro x _ task' here works
      have same : x.1 = t := works_unique run at_it.works works
      rw [same, at_it.here] at here
      cases here
      rw [wait]
      exact Nat.le_refl due
    obtain ⟨v', more, there⟩ := arrived later (run.trans (.move passes))
      (at_it.of_letsBe run passes letsBe (by rintro ⟨⟩))
        (by rw [wait]; exact decide_eq_true (Nat.le_refl due))
    exact ⟨v', .cons passes letsBe more, there⟩
  | build =>
    generalize some_builds : v.builds = builds
    induction builds generalizing v with
    | nil =>
      refine arrived v run at_it ?_
      rw [wait]
      refine decide_eq_true ?_
      rw [some_builds]
      exact List.not_mem_nil
    | cons u rest ih =>
      have build : Move.build.outcome? v = some ({ v with builds := rest }.wake u) := by
        rw [Move.outcome?, finishBuild?, some_builds]
      obtain ⟨v', more, there⟩ := ih (at_it.of_letsBe run build trivial (by rintro ⟨⟩))
        (run.trans (.move build)) rfl
      exact ⟨v', .cons build trivial more, there⟩
  | nothing => exact arrived v run at_it (by rw [wait]; rfl)
  | connectLock | tokenLock | lost =>
    -- A load waits for no lock and no connection.
    obtain ⟨-, stage, -⟩ := at_it
    cases stage <;> cases wait

/-- From any stage, the load can take its course. -/
lemma AtStage.exists_end (at_it : AtStage w entry v t task) (run : Reaches s.world v) :
    ∃ v', v.Undisturbed v' ∧ Ended w entry v'.affairs := by
  induction points : task.left using Nat.strongRecOn generalizing v t task with
  | ind n ih =>
    -- Once the host's runtime is there, fewer points are left with every turn.
    let hosted : World := { v with runtimeReady := true, autostart := v.autostart }
    have host : (Move.host true v.autostart).outcome? v = some hosted := rfl
    have there := at_it.of_letsBe run host trivial nofun
    obtain ⟨v₁, waits, run₁, at_it₁, ready, same⟩ := there.exists_turn (run.trans (.move host))
    have turn : (Move.turn t).outcome? v₁ = some (advance t task v₁) := by
      rw [Move.outcome?, at_it₁.here]
      exact if_pos ready
    have led : v.Undisturbed (advance t task v₁) :=
      .cons host trivial (waits.trans (.cons turn (.inl at_it₁.works) (.refl _)))
    rcases at_it₁.of_turn run₁ turn with ended | ⟨u, next, at_it₂, closer⟩
    · exact ⟨_, led, ended⟩
    · obtain ⟨v', more, ended⟩ := ih next.left (points ▸ closer same) at_it₂
        (run₁.trans (.move turn)) rfl
      exact ⟨v', led.trans more, ended⟩

/-! ### Loads that are asked for -/

lemma atStage_of_asked (idle : w.state.phase.Idle)
    (here : w.schedule.point? t = some (.asked entry .load))
    (turn : (Move.turn t).outcome? w = some v) : ∃ task, AtStage w entry v t task := by
  obtain ⟨task, here', -, rfl⟩ := exists_of_turn turn
  cases here.symm.trans here'
  let begun : World := { w with state := ⟨w.state.generation + 1, .registering⟩ }.startHandler
  have affairs : begun.affairs = { w.affairs with
      state := ⟨w.state.generation + 1, .registering⟩ } := affairs_startHandler _
  have now : begun.now = w.now := by
    show (startHandler _).schedule.now = w.schedule.now
    unfold startHandler
    split <;> rfl
  have fixtures : begun.fixtures = w.fixtures := congrArg Affairs.fixtures affairs
  have scripts : begun.scripts = w.scripts := congrArg Affairs.scripts affairs
  have load : begun.scripts.load = w.scripts.load := congrArg Scripts.load scripts
  have reset : begun.scripts.reset = w.scripts.reset := congrArg Scripts.reset scripts
  have setup : begun.scripts.setup = w.scripts.setup := congrArg Scripts.setup scripts
  have history : begun.history = w.history := congrArg Affairs.history affairs
  have config : begun.config = w.config := congrArg Fixtures.config fixtures
  have resumed : Task.resume t (.asked entry .load) w = (begun.callRegister.2,
      some (.load entry (.register (w.state.generation + 1) begun.callRegister.1
        (begun.after begun.config.backendTimeout)))) := by
    show Task.report entry _ _ (Load.start w) = _
    unfold Load.start
    rw [BackendState.beginLoad_of_idle idle]
    rfl
  have tells : Tells w entry begun.callRegister.2.affairs (Course.registered w entry) := by
    have whole : Tells w entry w.affairs (w.course entry) := fun host => ⟨host.polls, rfl⟩
    refine whole.since [.register] (fun _ => rfl) ?_
    show Event.register :: begun.history = _
    rw [history]
    rfl
  refine ⟨_, ⟨(point?_advance ..).trans (congrArg Prod.snd resumed), ?_, ?_⟩⟩
  · rw [affairs_advance, now_advance, resumed]
    refine .register ⟨fixtures, congrArg Affairs.state affairs, congrArg Affairs.tunnels affairs,
      setup⟩ (congrArg Affairs.cycles affairs) (congrArg Affairs.storage affairs) load reset
        ?_ ?_ ?_ tells
    · show begun.now + begun.scripts.register.next.1.delay = _
      rw [now, scripts]
    · show begun.scripts.register.next.1.answer = _
      rw [scripts]
    · show begun.now + begun.config.backendTimeout.timerMillis = _
      rw [now, config]
  · rw [now_advance, resumed]
    rintro _ ⟨⟩
    exact Nat.le_min.2 ⟨Nat.le_add_right .., Nat.le_add_right ..⟩

/-- **An undisturbed load takes the course that its collaborators' answers prescribe.** It comes to
its end whatever they answer, once the host's runtime is there. Then the backend is where `outcome`
says, all that has happened is one of the courses, and `acts` tells what was done: the authority was
reset if the certificate that was loaded is for another domain, a certificate was issued and the user
told of it if none was valid then, and a tunnel was created, once, if there was a TLS context. -/
theorem undisturbed_load_takes_its_course (before : Reaches s.world w) (idle : w.state.phase.Idle)
    (here : w.schedule.point? t = some (.asked entry .load))
    (turn : (Move.turn t).outcome? w = some v) (undisturbed : v.Undisturbed v') :
    (∃ v'', v'.Undisturbed v'' ∧ ∀ u, ¬ v''.Works u) ∧
      ((∀ u, ¬ v'.Works u) → v'.state = ⟨w.state.generation + 1, w.outcome⟩ ∧
        ∃ events, v'.history = events.reverse ++ w.history ∧
          events.filter Event.isAct = w.acts ∧ ∃ host, events = (w.course entry host).events) := by
  have run : Reaches s.world v := before.trans (.move turn)
  have run' : Reaches s.world v' := run.trans undisturbed.reaches
  have began : ∃ u task, AtStage w entry v u task := ⟨t, atStage_of_asked idle here turn⟩
  refine ⟨?_, fun finished => ?_⟩
  · rcases stage_of_undisturbed run undisturbed (.inr began) with ended | ⟨u, task, at_it⟩
    · exact ⟨v', .refl v', ended.not_works run'⟩
    · obtain ⟨v'', more, ended⟩ := at_it.exists_end run'
      exact ⟨v'', more, ended.not_works (run'.trans more.reaches)⟩
  · rcases stage_of_undisturbed run undisturbed (.inr began) with ended | ⟨u, task, at_it⟩
    · obtain ⟨host, history⟩ := ended.history
      exact ⟨ended.state, _, history, Course.acts_course w entry host, host, rfl⟩
    · exact absurd at_it.works (finished u)

end Moves

/-- The first load finds no certificate, has one issued and brings a tunnel up. -/
theorem first_load_brings_up_backend : ∃ (w v v' : World) (events : List Event),
    ({} : Setting).world.after? [.ask .load] = some w ∧ w.state.phase.Idle ∧
      w.schedule.point? 0 = some (.asked 0 .load) ∧ (Move.turn 0).outcome? w = some v ∧
      v.Undisturbed v' ∧ (∀ u, ¬ v'.Works u) ∧ v'.state = ⟨1, .ready 0 0⟩ ∧
      v'.history = events.reverse ++ w.history ∧ events.filter Event.isAct =
        [.issueCertificate "abc.example", .message .ready, .createTunnel 0 ⟨"relay1", 443⟩,
          .signal .backendUp] := by
  have asked : (({} : Setting).world.after? [.ask .load]).map (fun w =>
      (decide w.state.phase.Idle, w.schedule.point? 0, w.state.generation, w.outcome, w.acts)) =
        some (true, some (.asked 0 .load), 0, .ready 0 0, [.issueCertificate "abc.example",
          .message .ready, .createTunnel 0 ⟨"relay1", 443⟩, .signal .backendUp]) := rfl
  have seen : (({} : Setting).world.after? ([.ask .load] ++ [.turn 0])).map (fun v =>
      (decide (v.Throughout (fun m u _ => m.LetsBe u) ((firstBackend.drop 2).take 9)),
        (v.after? ((firstBackend.drop 2).take 9)).map fun v' => dutyOf v'.state)) =
          some (true, some none) := by
    decide +kernel
  obtain ⟨w, run, asked⟩ := Option.map_eq_some_iff.1 asked
  obtain ⟨v, began, seen⟩ := Option.map_eq_some_iff.1 seen
  simp only [Prod.mk.injEq, decide_eq_true_eq] at asked seen
  obtain ⟨idle, here, generation, outcome, acts⟩ := asked
  obtain ⟨all, seen⟩ := seen
  obtain ⟨v', after, duty⟩ := Option.map_eq_some_iff.1 seen
  have turn := last_of_after? run began
  have before : Reaches ({} : Setting).world w := ⟨_, run⟩
  have undisturbed : v.Undisturbed v' := ⟨_, after, all⟩
  have finished := not_works ((before.trans (.move turn)).trans undisturbed.reaches) duty
  obtain ⟨state, events, history, acted, -⟩ :=
    (undisturbed_load_takes_its_course before idle here turn undisturbed).2 finished
  rw [generation, outcome] at state
  exact ⟨w, v, v', events, run, idle, here, turn, undisturbed, finished, state, history,
    acted.trans acts⟩

/-- A load for which no certificate can be issued ends without a tunnel. -/
theorem stalled_load_creates_no_tunnel : ∃ w v v' : World,
    Setting.flakyStore.world.after? [.ask .load] = some w ∧ w.state.phase.Idle ∧
      w.config.backendTimeout = .ofSecs 30 ∧ w.schedule.point? 0 = some (.asked 0 .load) ∧
      (Move.turn 0).outcome? w = some v ∧ v.Undisturbed v' ∧ (∀ u, ¬ v'.Works u) ∧
      v'.state.phase = .stalled 0 ∧ v'.creations = w.creations := by
  have asked : (Setting.flakyStore.world.after? [.ask .load]).map (fun w =>
      (decide w.state.phase.Idle, w.config.backendTimeout, w.schedule.point? 0, w.creations)) =
        some (true, .ofSecs 30, some (.asked 0 .load), []) := rfl
  have seen : (Setting.flakyStore.world.after? ([.ask .load] ++ [.turn 0])).map (fun v =>
      (decide (v.Throughout (fun m u _ => m.LetsBe u) ((loadedAfterStall.drop 2).take 5)),
        (v.after? ((loadedAfterStall.drop 2).take 5)).map fun v' => (v'.state, v'.creations))) =
          some (true, some (⟨1, .stalled 0⟩, [])) := by
    decide +kernel
  obtain ⟨w, run, asked⟩ := Option.map_eq_some_iff.1 asked
  obtain ⟨v, began, seen⟩ := Option.map_eq_some_iff.1 seen
  simp only [Prod.mk.injEq, decide_eq_true_eq] at asked seen
  obtain ⟨idle, timeout, here, before⟩ := asked
  obtain ⟨all, seen⟩ := seen
  obtain ⟨v', after, seen⟩ := Option.map_eq_some_iff.1 seen
  obtain ⟨state, created⟩ := Prod.mk.inj seen
  have turn := last_of_after? run began
  have reached : Reaches Setting.flakyStore.world w := ⟨_, run⟩
  have undisturbed : v.Undisturbed v' := ⟨_, after, all⟩
  have finished := not_works ((reached.trans (.move turn)).trans undisturbed.reaches)
    (by rw [state]; rfl)
  exact ⟨w, v, v', run, idle, timeout, here, turn, undisturbed, finished, by rw [state],
    created.trans before.symm⟩

end TunnelKeeper.Coordinator
