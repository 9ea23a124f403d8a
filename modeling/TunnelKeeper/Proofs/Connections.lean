import TunnelKeeper.Proofs.Attempts
import TunnelKeeper.Proofs.Generations
import TunnelKeeper.Proofs.Tunnels

/-!
What becomes of connections. Only an attempt connects a tunnel, and its backend is ready, or the
tunnel has been told to stop since. A connection that comes up after the tunnel has stopped is
undone by the attempt of a guard; any other attempt leaves it there.
-/

namespace TunnelKeeper.Coordinator

/-! ### Stages over time -/

def TunnelStage.rank : TunnelStage → Nat
  | created => 1
  | running => 2
  | stopping => 3
  | stopped => 4

/-- How far a tunnel has come, by number. -/
def rankOf (stage : Option TunnelStage) : Nat := stage.elim 0 TunnelStage.rank

lemma told_iff {stage : Option TunnelStage} :
    stage.any TunnelStage.told = true ↔ 2 < rankOf stage := by
  rcases stage with _ | _ | _ | _ | _ <;> decide

lemma begun_iff {stage : Option TunnelStage} :
    stage.any TunnelStage.begun = true ↔ 1 < rankOf stage := by
  rcases stage with _ | _ | _ | _ | _ <;> decide

/-- A tunnel goes on and never back, and it is down when it has just stopped. -/
structure Outline.Follows (n : TunnelId) (c d : Outline) : Prop where
  later : rankOf (stageOf c.tunnels n) ≤ rankOf (stageOf d.tunnels n)
  stopped : stageOf d.tunnels n = some .stopped →
    stageOf c.tunnels n = some .stopped ∨ d.isConnected n = false

namespace Outline.Follows

variable {c d e : Outline} {n : TunnelId}

lemma told (h : Follows n c d) (told : (stageOf c.tunnels n).any TunnelStage.told = true) :
    (stageOf d.tunnels n).any TunnelStage.told = true :=
  told_iff.2 (Nat.lt_of_lt_of_le (told_iff.1 told) h.later)

lemma begun (h : Follows n c d) (begun : c.begun n = true) : d.begun n = true :=
  begun_iff.2 (Nat.lt_of_lt_of_le (begun_iff.1 begun) h.later)

lemma of_same (stage : stageOf d.tunnels = stageOf c.tunnels) : Follows n c d :=
  ⟨Nat.le_of_eq (by rw [stage]), fun stopped => .inl (by rwa [stage] at stopped)⟩

lemma congr (h : Follows n c d) (same : e.tunnels = d.tunnels) : Follows n c e := by
  obtain ⟨later, stopped⟩ := h
  unfold isConnected at stopped
  rw [← same] at later stopped
  exact ⟨later, stopped⟩

end Outline.Follows

lemma Deed.follows {t : TaskId} {o : Owner} {c d : Outline} {x y : Job} (h : c.Owns)
    (at_it : c.job t = x) (deed : Deed t o c x d y) (n : TunnelId) : Outline.Follows n c d := by
  have moved {m : TunnelId} {s : TunnelStage}
      (stage : stageOf d.tunnels = Function.update (stageOf c.tunnels) m (some s))
      (later : rankOf (stageOf c.tunnels m) ≤ s.rank)
      (down : s = .stopped → d.isConnected m = false) : Outline.Follows n c d := by
    by_cases here : n = m
    · subst here
      have after : stageOf d.tunnels n = some s := by rw [stage, Function.update_self]
      refine ⟨by rwa [after], fun stopped => .inr (down ?_)⟩
      exact Option.some.inj (after.symm.trans stopped)
    · have same : stageOf d.tunnels n = stageOf c.tunnels n := by
        rw [stage, Function.update_of_ne here]
      exact ⟨Nat.le_of_eq (by rw [same]), fun stopped => .inl (by rwa [same] at stopped)⟩
  cases deed.staged h at_it with
  | same stage | dropped stage => exact .of_same stage
  | made new stage => exact moved stage (by rw [new]; decide) nofun
  | up created stage | discard created stage => exact moved stage (by rw [created]; decide) nofun
  | taken running stage => exact moved stage (by rw [running]; decide) nofun
  | @stopped m s there told tunnels =>
    have later : rankOf (stageOf c.tunnels m) ≤ TunnelStage.stopped.rank := by
      rw [there]
      cases s <;> decide
    refine moved (Staged.stage_of_stopped there tunnels) later fun _ => ?_
    unfold Outline.isConnected
    rw [tunnels]
    exact Outline.isConnected_down

/-- In the turn of `t`, its load leaves the rest to setup, a new task `u`. -/
structure World.HandsOver (w : World) (t u : TaskId) (p : SetupPoint) (w' : World) : Prop where
  load : ∃ q, w.outline.job t = .load q
  rest : w'.outline.job t = .rest
  new : u = w.outline.next
  start : p.step = .start
  registering : w.state = ⟨p.generation, .registering⟩
  loading : w'.state = ⟨p.generation, .loading p.cycle⟩

namespace Move

variable {m : Move} {w w' : World} {n : TunnelId}

lemma follows (owns : w.outline.Owns) (move : m.outcome? w = some w') (n : TunnelId) :
    Outline.Follows n w.outline w'.outline := by
  rcases Move.cases move with ⟨t, task, d, y, rfl, here, turned, ending⟩ | ⟨-, happened⟩
  · refine .congr ?_ ending.tunnels
    cases turned with
    | once deed => exact deed.follows owns (World.outline_job here) n
    | andLost _ deed =>
      exact .congr (deed.follows owns (World.outline_job here) n) rfl
  · exact .of_same happened.stageOf_tunnels

/-! ### Jobs over time -/

/-- What a task is at that it does not come to in its turn: what it was at, nothing, what somebody
has asked for, or a setup that has been left to itself. -/
lemma job_cases {u : TaskId} (back : Background w.outline) (move : m.outcome? w = some w')
    (other : m ≠ .turn u) : w'.outline.job u = w.outline.job u ∨ w'.outline.job u = .rest ∨
      (∃ operation : Operation, w'.outline.job u = operation.job) ∨
      ∃ t p, m = .turn t ∧ w.HandsOver t u p w' ∧ w'.outline.job u = .setup p := by
  rcases Move.cases move with ⟨t, task, d, y, rfl, here, turned, ending⟩ | ⟨-, happened⟩
  · have other : u ≠ t := fun same => other (congrArg _ same.symm)
    rw [ending.job_of_ne other]
    have kept {d : Outline} {y : Job} (deed : Deed t task.owner w.outline task.job d y) :
        d.job u = w.outline.job u ∨ d.job u = .rest ∨ ∃ q r, task.job = .load q ∧ y = .rest ∧
          w.state = ⟨q.generation, .registering⟩ ∧ d.job u = .setup ⟨q.generation, r, .start⟩ ∧
          d.state = ⟨q.generation, .loading r⟩ ∧ u = w.outline.next := by
      rcases deed.roster with same | ⟨o', x', spawned, left⟩
      · exact .inl (by rw [same])
      · rw [spawned, back.sound.job_spawn]
        split
        · next new =>
          rcases left with rfl | ⟨q, r, load, rest, registering, rfl, loading⟩
          · exact .inr (.inl rfl)
          · exact .inr (.inr ⟨q, r, load, rest, registering, rfl, loading, new⟩)
        · exact .inl rfl
    cases turned with
    | once deed =>
      rcases kept deed with same | rest | ⟨q, r, load, rfl, registering, setup, loading, new⟩
      · exact .inl same
      · exact .inr (.inl rest)
      · refine .inr (.inr (.inr ⟨t, _, rfl, ?_, setup⟩))
        exact ⟨⟨q, (World.outline_job here).trans load⟩, ending.job, new, rfl, registering,
          ending.state.trans loading⟩
    | andLost attempt deed =>
      rcases kept deed with same | rest | ⟨q, r, load, -⟩
      · exact .inl same
      · exact .inr (.inl rest)
      · cases attempt.symm.trans load
  · refine (back.job_of_outside happened u).imp_right ?_
    exact .imp_right fun asked => .inl asked

/-- An attempt has been there before, unless it is its turn: then it goes on, or it is new and for
the backend that is ready. -/
lemma attempt_before {u : TaskId} {a : Attempt} (back : Background w.outline)
    (move : m.outcome? w = some w') (after : w'.outline.job u = .attempt a) :
    w.outline.job u = .attempt a ∨ m = .turn u ∧ (w.state.active? = some a.active ∨
      ∃ a', w.outline.job u = .attempt a' ∧ a'.active = a.active) := by
  by_cases mine : m = .turn u
  · subst mine
    obtain ⟨task, d, y, here, turned, ending⟩ := World.turn_cases move
    obtain rfl : y = .attempt a := ending.job.symm.trans after
    refine .inr ⟨rfl, ?_⟩
    cases turned with
    | once deed =>
      rcases deed.attempt_cases with ⟨active, -, -⟩ | ⟨a', job, active, -⟩
      · exact .inl active
      · exact .inr ⟨a', (World.outline_job here).trans job, active⟩
  · rcases job_cases back move mine with same | rest | ⟨operation, asked⟩ | ⟨t, p, -, -, setup⟩
    · exact .inl (same.symm.trans after)
    · cases rest.symm.trans after
    · have after := asked.symm.trans after
      cases operation <;> cases after
    · cases setup.symm.trans after

lemma job_kept {u : TaskId} (back : Background w.outline) (move : m.outcome? w = some w')
    (busy : w.outline.job u ≠ .rest) (other : m ≠ .turn u) :
    w'.outline.job u = w.outline.job u := by
  rcases Move.cases move with ⟨t, task, d, y, rfl, here, turned, ending⟩ | ⟨-, happened⟩
  · have other : u ≠ t := fun same => other (congrArg _ same.symm)
    exact (ending.job_of_ne other).trans (back.job_kept turned busy)
  · generalize w'.outline = d at happened
    cases happened with
    | same | drop | host => rfl
    | ask operation =>
      refine (back.sound.job_spawn ..).trans (if_neg ?_)
      rintro rfl
      exact busy (back.sound.vacant _ (back.sound.fresh _ (Nat.le_refl _)))
    | @giveUp t own idle =>
      refine Roster.job_pass_of_ne ?_ _
      rintro rfl
      exact busy idle

lemma owner_kept {u : TaskId} {o : Owner} (move : m.outcome? w = some w')
    (own : w.outline.owner u = some o) (busy : w.outline.job u ≠ .rest) (other : m ≠ .turn u) :
    w'.outline.owner u = some o := by
  rcases Move.cases move with ⟨t, task, d, y, rfl, here, turned, ending⟩ | ⟨-, happened⟩
  · have other : u ≠ t := fun same => other (congrArg _ same.symm)
    exact (ending.owner_of_ne other).trans (turned.owner_of_some own)
  · generalize w'.outline = d at happened
    cases happened with
    | same | drop | host => exact own
    | ask operation => exact congrArg (Option.or · _) own
    | @giveUp t _ idle =>
      refine (Roster.owner_remove_of_ne ?_).trans own
      rintro rfl
      exact busy idle

/-! ### Connections over time -/

lemma isConnected_cases (move : m.outcome? w = some w') (up : w'.isConnected n = true) :
    w.isConnected n = true ∨ ∃ t a, m = .turn t ∧ w.outline.job t = .attempt a ∧
      a.active.tunnel = n ∧ a.step.success? = some true ∧
        a.Ends t w.outline (w'.outline.job t) := by
  rcases Move.cases move with ⟨t, task, d, y, rfl, here, turned, ending⟩ | ⟨-, happened⟩
  · have up : d.isConnected n = true := by
      unfold Outline.isConnected
      rw [← ending.tunnels]
      exact up
    refine (turned.isConnected_cases up).imp_right fun ⟨a, job, tunnel, success, ends⟩ => ?_
    have at_it := (World.outline_job here).trans job
    exact ⟨t, a, rfl, at_it, tunnel, success, ending.job.symm ▸ ends⟩
  · have up : w'.outline.isConnected n = true := up
    generalize w'.outline = d at happened up
    cases happened with
    | drop n => exact .inl (Outline.isConnected_of_down up).2
    | _ => exact .inl up

lemma down_of_undo {t : TaskId} {a : Attempt} {call : Call Unit}
    (move : (Move.turn t).outcome? w = some w') (at_it : w.outline.job t = .attempt a)
    (undo : a.step = .undo call) : w'.isConnected a.active.tunnel = false := by
  obtain ⟨task, d, y, here, turned, ending⟩ := World.turn_cases move
  obtain job : task.job = .attempt a := (World.outline_job here).symm.trans at_it
  rw [job] at turned
  have down : d.isConnected a.active.tunnel = false := by
    cases turned with
    | once deed => exact (deed.down_of_undo ⟨call, undo⟩).1
    | andLost same deed =>
      cases same
      exact (deed.down_of_undo ⟨call, undo⟩).1
  unfold Outline.isConnected at down
  rw [← ending.tunnels] at down
  exact down

lemma down_of_disconnect {t : TaskId} {p : DisconnectPoint}
    (move : (Move.turn t).outcome? w = some w') (at_it : w.outline.job t = .disconnect p) :
    w'.isConnected p.tunnel = false := by
  obtain ⟨task, d, y, here, turned, ending⟩ := World.turn_cases move
  obtain job : task.job = .disconnect p := (World.outline_job here).symm.trans at_it
  rw [job] at turned
  have down : d.isConnected p.tunnel = false := by
    cases turned with
    | once deed => exact deed.down_of_disconnect
    | andLost same => cases same
  unfold Outline.isConnected at down
  rw [← ending.tunnels] at down
  exact down

end Move

/-! ### Backends that have been ready -/

/-- The backend is ready, or it has been taken away and its tunnel has been told to stop. -/
def Outline.Served (c : Outline) (b : Active) : Prop :=
  c.state.active? = some b ∨
    b.generation < c.state.generation ∧ (stageOf c.tunnels b.tunnel).any TunnelStage.told = true

namespace Outline.Served

variable {c : Outline} {b : Active}

lemma running (owns : c.Owns) (ready : c.state.active? = some b) :
    stageOf c.tunnels b.tunnel = some .running :=
  owns.ready b.registration b.tunnel (by rw [BackendState.active?_eq_some_iff.1 ready])

lemma begun (owns : c.Owns) (h : c.Served b) : c.begun b.tunnel = true := by
  rcases h with ready | ⟨-, told⟩
  · unfold Outline.begun
    rw [running owns ready]
    rfl
  · exact begun_iff.2 (Nat.lt_of_succ_lt (told_iff.1 told))

lemma ready (h : c.Served b) (current : c.state.IsCurrent b.generation) :
    c.state.active? = some b :=
  h.resolve_right fun past => Nat.lt_irrefl _ (current ▸ past.1)

/-- Backends that share a tunnel with the one that is ready are that one. -/
lemma eq_of_ready (owns : c.Owns) {b' : Active} (h : c.Served b) (ready : c.state.active? = some b')
    (same : b.tunnel = b'.tunnel) : b = b' := by
  rcases h with active | ⟨-, told⟩
  · exact Option.some.inj (active.symm.trans ready)
  · rw [same, running owns ready] at told
    cases told

end Outline.Served

/-- A backend that is taken away leaves a tunnel that has been told to stop. -/
lemma Move.served {m : Move} {w w' : World} {b : Active} (back : Background w.outline)
    (owns : w.outline.Owns) (move : m.outcome? w = some w') (h : w.outline.Served b) :
    w'.outline.Served b := by
  have follows := Move.follows owns move b.tunnel
  have begun := follows.begun (h.begun owns)
  rcases h with ready | ⟨past, told⟩
  · have state : w.state = _ := BackendState.active?_eq_some_iff.1 ready
    have shift := Move.shift move
    have owns' : w'.outline.Owns := owns.step back (Move.step move)
    unfold Outline.Served
    generalize after : w'.state = s at shift
    have after : w'.outline.state = s := after
    rw [after]
    cases shift with
    | same => exact .inl ready
    | begin idle =>
      rw [state] at idle
      exact idle.elim
    | fail now | registered _ now | stalled _ now | up _ _ now =>
      rw [state] at now
      cases now
    | take =>
      refine .inr ⟨by rw [state]; exact Nat.lt_succ_self _, ?_⟩
      obtain ⟨stage, there, begun⟩ := (Option.any_eq_true ..).1 begun
      rw [there]
      cases stage with
      | created => cases begun
      | running =>
        obtain ⟨r, ready⟩ := owns'.running _ there
        rw [after] at ready
        cases ready
      | stopping | stopped => rfl
  · exact .inr ⟨Nat.lt_of_lt_of_le past (Move.shift move).generation_le, follows.told told⟩

/-- Attempts are for backends that have been ready, and only tunnels that have started are
connected. -/
structure Outline.Placed (c : Outline) : Prop where
  served : ∀ t a, c.job t = .attempt a → c.Served a.active
  begun : ∀ n, c.isConnected n = true → c.begun n = true

/-- What is so in every world that can be reached. -/
structure World.Regular (w : World) : Prop where
  back : Background w.outline
  owns : w.outline.Owns
  orderly : w.outline.Orderly
  placed : w.outline.Placed

namespace World.Regular

variable {m : Move} {w w' : World}

lemma move (h : w.Regular) (move : m.outcome? w = some w') : w'.Regular where
  back := h.back.step (Move.step move)
  owns := h.owns.step h.back (Move.step move)
  orderly := h.orderly.step h.back (Move.step move)
  placed := by
    refine ⟨fun u a after => ?_, fun n up => ?_⟩
    · refine Move.served h.back h.owns move ?_
      rcases Move.attempt_before h.back move after with kept | ⟨-, ready | ⟨a', before, same⟩⟩
      · exact h.placed.served u a kept
      · exact .inl ready
      · exact same ▸ h.placed.served u a' before
    · refine (Move.follows h.owns move n).begun ?_
      rcases Move.isConnected_cases move up with before | ⟨t, a, -, at_it, rfl, -⟩
      · exact h.placed.begun n before
      · exact (h.placed.served t a at_it).begun h.owns

lemma unguarded (h : w.Regular) {t : TaskId} {a : Attempt} (at_it : w.outline.job t = .attempt a)
    (late : ¬ w.state.IsCurrent a.active.generation)
    (live : a.guarded = true → w.isCancelled t = false) : a.guarded = false := by
  by_contra guarded
  have guarded := Bool.of_not_eq_false guarded
  obtain ⟨task, here, -⟩ := exists_attempt at_it
  obtain ⟨owned, mine⟩ := h.back.attempt t _ a (outline_owner here) at_it
  cases own : task.owner with
  | guard g =>
    have own := (outline_owner here).trans (congrArg some own)
    have cancelled := h.back.cancelled_of_late (mine g ‹_› ▸ own) late
    cases (live guarded).symm.trans cancelled
  | caller | handler =>
    rw [own] at owned
    cases guarded.symm.trans owned

end World.Regular

theorem Reaches.regular {s : Setting} {w : World} (run : Reaches s.world w) : w.Regular :=
  run.keeps (fun move h => h.move move)
    ⟨s.background, s.owns, ⟨nofun, nofun⟩, ⟨nofun, nofun⟩⟩

/-! ### Connections that come up too late -/

/-- In this move, an attempt that no guard makes connects a tunnel that has stopped. -/
def Move.ConnectsTooLate (n : TunnelId) (m : Move) (w : World) : Prop :=
  ∃ a ∈ m.attempt? w, a.guarded = false ∧ a.active.tunnel = n ∧ a.step.success? = some true ∧
    stageOf w.tunnels n = some .stopped

instance (n : TunnelId) (m : Move) (w : World) : Decidable (m.ConnectsTooLate n w) :=
  inferInstanceAs (Decidable (∃ a ∈ m.attempt? w, _))

/-- A tunnel that has stopped is down, or somebody takes it down. -/
def World.Tended (n : TunnelId) (w : World) : Prop :=
  w.isConnected n = true → stageOf w.tunnels n = some .stopped →
    ∃ t a call, w.outline.job t = .attempt a ∧ a.active.tunnel = n ∧ a.step = .undo call

lemma World.Tended.move {n : TunnelId} {m : Move} {w w' : World} (h : w.Tended n)
    (regular : w.Regular) (move : m.outcome? w = some w') (timely : ¬ m.ConnectsTooLate n w) :
    w'.Tended n := by
  intro up stopped
  have before : stageOf w.tunnels n = some .stopped :=
    ((Move.follows regular.owns move n).stopped stopped).resolve_right fun down => by
      cases down.symm.trans up
  rcases Move.isConnected_cases move up with was | ⟨t, a, rfl, at_it, rfl, success, ends⟩
  · obtain ⟨u, a, call, at_it, rfl, undo⟩ := h was before
    by_cases mine : m = .turn u
    · subst mine
      cases (Move.down_of_undo move at_it undo).symm.trans up
    · have kept := Move.job_kept regular.back move (at_it ▸ nofun) mine
      exact ⟨u, a, call, kept.trans at_it, rfl, undo⟩
  · have served := regular.placed.served t a at_it
    generalize after : w'.outline.job t = y at ends
    cases ends with
    | inTime current =>
      have running := Outline.Served.running regular.owns (served.ready current)
      cases running.symm.trans before
    | late late live =>
      have unguarded := regular.unguarded at_it late live
      exact absurd ⟨a, attempt?_turn at_it, unguarded, rfl, success, before⟩ timely
    | undo call => exact ⟨t, _, call, after, rfl, rfl⟩

/-- The backend has been ready, and all attempts to connect its tunnel are for it. -/
structure World.Attends (b : Active) (w : World) : Prop where
  served : w.outline.Served b
  attempts : ∀ t a, w.outline.job t = .attempt a → a.active.tunnel = b.tunnel → a.active = b

lemma World.Attends.move {b : Active} {m : Move} {w w' : World} (h : w.Attends b)
    (regular : w.Regular) (move : m.outcome? w = some w') : w'.Attends b where
  served := Move.served regular.back regular.owns move h.served
  attempts u a after same := by
    rcases Move.attempt_before regular.back move after with
      kept | ⟨-, ready | ⟨a', before, active⟩⟩
    · exact h.attempts u a kept same
    · exact (h.served.eq_of_ready regular.owns ready same.symm).symm
    · exact active ▸ h.attempts u a' before (active ▸ same)

/-- **No connection is left behind**, unless an attempt that no guard makes gets it too late. Once a
backend has been taken away and its tunnel has stopped, the tunnel is not connected as soon as no
attempt for that generation is under way, except if such an attempt succeeds after the stop. -/
theorem no_connection_left {s : Setting} {v w : World} {moves : List Move} {b : Active}
    (before : Reaches s.world v) (ready : v.state.active? = some b)
    (run : v.after? moves = some w) (stopped : stageOf w.tunnels b.tunnel = some .stopped)
    (ended : ∀ a ∈ w.attempts, a.active.generation ≠ b.generation)
    (timely : v.Throughout (fun m u _ => ¬ m.ConnectsTooLate b.tunnel u) moves) :
    w.isConnected b.tunnel = false := by
  have regular := before.regular
  have running := Outline.Served.running regular.owns ready
  have attends : v.Attends b :=
    ⟨.inl ready, fun t a at_it same =>
      (regular.placed.served t a at_it).eq_of_ready regular.owns ready same⟩
  have tended : v.Tended b.tunnel := fun _ stopped => by cases running.symm.trans stopped
  obtain ⟨-, tended, attends⟩ := timely.keeps
    (I := fun u => u.Regular ∧ u.Tended b.tunnel ∧ u.Attends b)
    (fun move timely h => ⟨h.1.move move, h.2.1.move h.1 move timely, h.2.2.move h.1 move⟩)
    run ⟨regular, tended, attends⟩
  refine Bool.eq_false_iff.2 fun up => ?_
  obtain ⟨t, a, call, at_it, same, -⟩ := tended up stopped
  refine ended a (World.mem_attempts at_it) ?_
  rw [attends.attempts t a at_it same]

/-- While the guard is about to connect the backend again, it is closed. -/
def lateGuard : List Move :=
  reconnecting ++ [.ask .close, .turn 5, .turn 5, .turn 4, .turn 4]

/-- The guard undoes the connection. -/
theorem lateGuard_leaves_no_connection : ∃ v w : World,
    ({} : Setting).world.after? firstBackend = some v ∧ v.after? lateGuard = some w ∧
      stageOf w.tunnels 0 = some .stopped ∧ w.isConnected 0 = false := by
  have seen : (({} : Setting).world.after? firstBackend).bind (fun v =>
      (v.after? lateGuard).map fun w =>
        (v.state.active?, stageOf w.tunnels 0, w.attempts.map (·.active.generation),
          decide (v.Throughout (fun m u _ => ¬ m.ConnectsTooLate 0 u) lateGuard))) =
      some (some ⟨1, 0, 0⟩, some .stopped, [], true) := by
    decide +kernel
  obtain ⟨v, before, seen⟩ := Option.bind_eq_some_iff.1 seen
  obtain ⟨w, run, seen⟩ := Option.map_eq_some_iff.1 seen
  simp only [Prod.mk.injEq, List.map_eq_nil_iff, decide_eq_true_eq] at seen
  obtain ⟨ready, stopped, ended, timely⟩ := seen
  refine ⟨v, w, before, run, stopped, ?_⟩
  exact no_connection_left ⟨_, before⟩ ready run stopped (ended ▸ nofun) timely

/-- The backend is closed while a caller is about to connect it. -/
def lateCaller : List Move := [.ask .close, .turn 4, .turn 4, .turn 3]

/-- The connection of the caller is left behind. -/
theorem lateCaller_leaves_connection : ∃ v w : World,
    ({} : Setting).world.after? firstBackend.dropLast = some v ∧
      v.state.active? = some ⟨1, 0, 0⟩ ∧ v.after? lateCaller = some w ∧
      stageOf w.tunnels 0 = some .stopped ∧ w.attempts = [] ∧ w.isConnected 0 = true := by
  have seen : (({} : Setting).world.after? firstBackend.dropLast).bind (fun v =>
      (v.after? lateCaller).map fun w =>
        (v.state.active?, stageOf w.tunnels 0, w.attempts.isEmpty, w.isConnected 0)) =
      some (some ⟨1, 0, 0⟩, some .stopped, true, true) := rfl
  obtain ⟨v, before, seen⟩ := Option.bind_eq_some_iff.1 seen
  obtain ⟨w, run, seen⟩ := Option.map_eq_some_iff.1 seen
  simp only [Prod.mk.injEq, List.isEmpty_iff] at seen
  obtain ⟨ready, stopped, ended, up⟩ := seen
  exact ⟨v, w, before, ready, run, stopped, ended, up⟩

end TunnelKeeper.Coordinator
