import TunnelKeeper.Proofs.Connections
import TunnelKeeper.Proofs.Slots

/-!
Tasks that have been cancelled. Whatever a cancelled task is in the middle of, it begins nothing
new, it leaves the state alone, and no success is heard of it. A connection that comes up for a
cancelled guard is taken down again before anybody else gets the connect lock, so nothing is
connected any more once somebody has disconnected, unless somebody connects.
-/

namespace TunnelKeeper.Coordinator

open World Cooperative

/-! ### Nothing is ventured -/

/-- What a task does no more once it has been cancelled: calls that begin something, and signals of
what has come about. -/
def Event.isVenture : Event → Bool
  | register => true
  | token _ => true
  | issueCertificate _ => true
  | startTunnel _ => true
  | connectTunnel _ _ => true
  | signal .backendUp => true
  | signal .backendDown => true
  | signal .connected => true
  | _ => false

namespace World

/-- The ventures so far, the latest first. -/
def ventures (w : World) : List Event := (w.trace.map Prod.snd).filter Event.isVenture

/-- The state is as before, nothing has been ventured, and no task has been spawned. -/
structure Tame (w w' : World) : Prop where
  state : w'.state = w.state
  ventures : w'.ventures = w.ventures
  next : w'.schedule.next = w.schedule.next

namespace Tame

variable {w w' w'' : World}

lemma refl (w : World) : w.Tame w := ⟨rfl, rfl, rfl⟩

lemma trans (h : w.Tame w') (h' : w'.Tame w'') : w.Tame w'' :=
  ⟨h'.state.trans h.state, h'.ventures.trans h.ventures, h'.next.trans h.next⟩

end Tame

variable (w : World) (t : TaskId)

lemma tame_record {e : Event} (harmless : e.isVenture = false) : w.Tame (w.record e) :=
  ⟨rfl, List.filter_cons_of_neg (by rw [harmless]; nofun), rfl⟩

lemma tame_wakeOption (u : Option TaskId) : w.Tame (w.wakeOption u) := by
  cases u with
  | none => exact .refl w
  | some u => exact ⟨rfl, rfl, Schedule.next_wake ..⟩

lemma tame_setConnected (n : TunnelId) (connected : Bool) : w.Tame (w.setConnected n connected) :=
  ⟨rfl, rfl, Schedule.next_wakeWhere ..⟩

lemma tame_leaveConnectLock : w.Tame (w.leaveConnectLock t) := by
  have left : w.Tame { w with connectLock := (w.connectLock.leave t).1 } := ⟨rfl, rfl, rfl⟩
  exact left.trans (tame_wakeOption _ _)

lemma tame_leaveTokenLock (c : CycleId) : w.Tame (w.leaveTokenLock c t) := by
  have left : w.Tame (w.modifyCycle c fun cycle =>
      { cycle with tokenLock := (cycle.tokenLock.leave t).1 }) := ⟨rfl, rfl, rfl⟩
  exact left.trans (tame_wakeOption _ _)

end World

variable (t : TaskId) {w : World}

lemma Connect.tame_finish {a : Attempt} (guarded : a.guarded = true) (w : World) :
    w.Tame (finish t a w).1 := by
  unfold finish
  dsimp only
  rw [if_pos guarded]
  exact w.tame_leaveConnectLock t

/-- A cancelled attempt of a guard ends where it is, or it undoes the connection. -/
lemma Connect.tame_resume {a : Attempt} (guarded : a.guarded = true)
    (cancelled : w.isCancelled t = true) : w.Tame (resume t a w).1 := by
  have both : (a.guarded && w.isCancelled t) = true := by rw [guarded, cancelled]; rfl
  unfold resume
  dsimp only
  split
  · rw [if_pos both]
    exact w.tame_leaveConnectLock t
  · rw [if_pos both]
    exact (w.tame_leaveTokenLock t _).trans (tame_finish t guarded _)
  · split
    · exact (w.tame_record rfl).trans (tame_finish t guarded _)
    · next lasting _ =>
      rw [if_pos both]
      have connected : w.Tame (w.connectArrived a.active.tunnel lasting) := by
        cases lasting with
        | false => exact .refl w
        | true => exact w.tame_setConnected _ true
      exact connected.trans ⟨rfl, rfl, rfl⟩
  · exact (w.tame_setConnected _ false).trans (tame_finish t guarded _)

namespace Guard

variable (g : Nat)

lemma tame_round (w : World) : w.Tame (round g w).1 := by
  unfold round
  split
  · exact .refl w
  · split
    · exact .refl w
    · exact ⟨rfl, rfl, rfl⟩

lemma attempting_of_cancelled {turn : Turn Attempt Result}
    (cancelled : turn.1.isCancelled t = true) : (attempting t g turn).1 = turn.1 := by
  unfold attempting
  split
  · rfl
  · rfl
  · rw [if_pos cancelled]
  · rfl

lemma tame_resume {p : GuardPoint} (mine : ∀ a, p = .attempt a → a.guarded = true)
    (cancelled : w.isCancelled t = true) : w.Tame (resume t g p w).1 := by
  cases p with
  | start => exact tame_round g w
  | watch n =>
    simp only [resume, if_pos cancelled]
    exact .refl w
  | sleep due =>
    simp only [resume, if_pos cancelled]
    exact .refl w
  | attempt a =>
    have kept := (Connect.deed_resume t (.guard g) a w).attempt_keeps.2
    have still : (Connect.resume t a w).1.isCancelled t = true :=
      (congrFun kept t).trans cancelled
    simp only [resume, attempting_of_cancelled t g still]
    exact Connect.tame_resume t (mine a rfl) cancelled

end Guard

lemma Handler.tame_resume (p : HandlerPoint) (cancelled : w.isCancelled t = true) :
    w.Tame (resume t p w).1 := by
  cases p with
  | start =>
    unfold resume night
    dsimp only
    split <;> exact ⟨rfl, rfl, rfl⟩
  | sleep due =>
    simp only [resume, if_pos cancelled]
    exact .refl w
  | check p =>
    simp only [resume, if_pos cancelled]
    exact .refl w

variable {t}

/-- In its turns, a task that has been cancelled ventures nothing. -/
lemma Background.tame_turn {w' : World} (h : Background w.outline)
    (cancelled : w.isCancelled t = true) (turn : (Move.turn t).outcome? w = some w') :
    w.Tame w' := by
  obtain ⟨task, here, -, rfl⟩ := exists_of_turn turn
  have tame : w.Tame (Task.resume t task w).1 := by
    have own := outline_owner here
    cases task with
    | handler p =>
      rw [Task.resume, Task.goOn_fst]
      exact Handler.tame_resume t p cancelled
    | guard g p =>
      rw [Task.resume, Task.goOn_fst]
      refine Guard.tame_resume t g (fun a same => ?_) cancelled
      subst same
      exact (h.attempt t _ a own (outline_job here)).1
    | _ => rcases h.owner_of_cancelled cancelled own with other | other <;> cases other
  refine tame.trans ?_
  unfold advance
  rw [show Cooperative.resume t task w = Task.resume t task w from rfl]
  rcases Task.resume t task w with ⟨v, _ | next⟩ <;> exact ⟨rfl, rfl, rfl⟩

/-! ### Cancelled once and for all -/

lemma Turned.isCancelled {u : TaskId} {o : Owner} {c d : Outline} {x y : Job}
    (turned : Turned u o c x d y) (cancelled : c.isCancelled t = true) :
    d.isCancelled t = true := by
  have handler : c.handlerSlot.cancelled ⊆ d.handlerSlot.cancelled := by
    rcases turned.handlerSlot_cases with same | ⟨emptied, -⟩ | ⟨-, filled, -⟩
    · exact same ▸ List.Subset.refl _
    · exact emptied ▸ c.handlerSlot.cancelled_subset_cancel
    · exact filled ▸ List.Subset.refl _
  have guard : c.guardSlot.cancelled ⊆ d.guardSlot.cancelled := by
    rcases turned.guardSlot_cases with same | ⟨emptied, -⟩ | ⟨-, filled, -⟩
    · exact same ▸ List.Subset.refl _
    · exact emptied ▸ c.guardSlot.cancelled_subset_cancel
    · exact filled ▸ List.Subset.refl _
  refine Bool.or_eq_true_iff.2 ((Bool.or_eq_true_iff.1 cancelled).imp ?_ ?_)
  · exact fun there => decide_eq_true (handler (of_decide_eq_true there))
  · exact fun there => decide_eq_true (guard (of_decide_eq_true there))

lemma Ending.isCancelled {calm : Prop} {u : TaskId} {o : Owner} {c d e : Outline} {y : Job}
    (ending : Ending calm u o c d y e) : e.isCancelled = d.isCancelled := by
  cases ending with
  | pass => rfl
  | finish =>
    funext t
    have handler := d.handlerSlot.cancelled_finish u
    have guard := d.guardSlot.cancelled_finish u
    exact congrArg₂ (fun l l' : List TaskId => decide (t ∈ l) || decide (t ∈ l')) handler guard

lemma Move.isCancelled {m : Move} {w' : World} (move : m.outcome? w = some w')
    (cancelled : w.isCancelled t = true) : w'.isCancelled t = true := by
  rcases Move.cases move with ⟨u, task, d, y, rfl, -, turned, ending⟩ | ⟨-, happened⟩
  · exact (congrFun ending.isCancelled t).trans (turned.isCancelled cancelled)
  · obtain ⟨handler, guard, -⟩ := happened.same_slots
    have same : w'.outline.isCancelled t = w.outline.isCancelled t := by
      unfold Outline.isCancelled
      rw [handler, guard]
    exact same.trans cancelled

/-! ### A connection that comes up for a cancelled guard -/

namespace World

lemma point?_of_guard {g : Nat} {a : Attempt} (own : w.outline.owner t = some (.guard g))
    (at_it : w.outline.job t = .attempt a) :
    w.schedule.point? t = some (.guard g (.attempt a)) := by
  obtain ⟨task, here, job⟩ := exists_attempt at_it
  have own := (outline_owner here).symm.trans own
  rcases Task.eq_of_attempt job with ⟨entry, rfl⟩ | rfl | ⟨g', rfl⟩
  · cases own
  · cases own
  · obtain rfl := Owner.guard.inj (Option.some.inj own)
    exact here

end World

/-- The guard makes the attempt. -/
def World.GuardMakes (t : TaskId) (g : Nat) (a : Attempt) (w : World) : Prop :=
  w.outline.owner t = some (.guard g) ∧ w.outline.job t = .attempt a

lemma World.GuardMakes.move {g : Nat} {a : Attempt} {m : Move} {w' : World}
    (h : w.GuardMakes t g a) (back : Background w.outline) (move : m.outcome? w = some w')
    (other : m ≠ .turn t) : w'.GuardMakes t g a :=
  have busy : w.outline.job t ≠ .rest := h.2 ▸ nofun
  ⟨Move.owner_kept move h.1 busy other, (Move.job_kept back move busy other).trans h.2⟩

/-- A guard that has been cancelled takes the connection down as soon as it comes up. -/
lemma Guard.undoes {g due : Nat} {a : Attempt} {lasting : Bool} {w' : World}
    (cancelled : w.isCancelled t = true) (guarded : a.guarded = true)
    (here : w.schedule.point? t = some (.guard g (.attempt a)))
    (success : a.step = .connect ⟨due, .ok lasting⟩)
    (turn : (Move.turn t).outcome? w = some w') : ∃ call,
      w'.trace = (w.now, .disconnectTunnel a.active.tunnel) :: w.trace ∧
        w'.schedule.point? t = some (.guard g (.attempt { a with step := .undo call })) := by
  obtain ⟨task, here', -, rfl⟩ := exists_of_turn turn
  cases here.symm.trans here'
  obtain ⟨active, _, step⟩ := a
  cases guarded
  cases success
  have now : (w.connectArrived active.tunnel lasting).now = w.now := by
    cases lasting with
    | false => rfl
    | true => exact Schedule.now_wakeWhere ..
  have trace : (w.connectArrived active.tunnel lasting).trace = w.trace := by
    cases lasting <;> rfl
  rw [point?_advance, advance_eq, ← now, ← trace]
  simp only [Task.resume, Guard.resume, Connect.resume, cancelled, Bool.and_self, if_true]
  exact ⟨_, rfl, rfl⟩

/-- The turn in which it is down again: the call has returned by then. -/
lemma Guard.undone {g : Nat} {a : Attempt} {call : Call Unit} {w' : World}
    (here : w.schedule.point? t = some (.guard g (.attempt { a with step := .undo call })))
    (turn : (Move.turn t).outcome? w = some w') :
    call.due ≤ w.now ∧ w'.isConnected a.active.tunnel = false := by
  refine ⟨?_, Move.down_of_undo (a := { a with step := .undo call }) turn (outline_job here) rfl⟩
  obtain ⟨task, here', ready, -⟩ := exists_of_turn turn
  cases here.symm.trans here'
  have deaf : (Task.guard g (.attempt { a with step := .undo call })).heedsCancel = false :=
    Bool.and_false _
  rw [World.ready, deaf, Bool.false_and, Bool.or_false] at ready
  exact of_decide_eq_true ready

/-! ### Nothing is connected any more -/

/-- The task connects the backend that is ready, or tries to, for a caller or after a start. -/
def Task.beginsConnect : Task → Bool
  | asked _ .connect => true
  | asked _ (.request _) => true
  | autostart => true
  | _ => false

/-- In this move, an attempt to connect begins that no guard makes. -/
def Move.beginsConnect (m : Move) (w : World) : Bool :=
  match m with
  | turn t => (w.schedule.point? t).any Task.beginsConnect
  | _ => false

/-- Nobody but a guard makes an attempt, unless it goes on or somebody begins it. -/
lemma Task.begins_or_goes_on {task next : Task} {a : Attempt}
    (came : (resume t task w).2 = some next) (job : next.job = .attempt a) :
    task.beginsConnect = true ∨ (∃ b, task.job = .attempt b) ∨ task.owner.isGuard = true := by
  have no_attempt {p : CheckPoint} (job : p.job = .attempt a) : False := by
    rcases p.job_cases with eq | ⟨q, eq⟩ | ⟨q, eq⟩ <;> cases eq.symm.trans job
  cases task with
  | asked entry operation =>
    cases operation with
    | connect | request => exact .inl rfl
    | start => cases came
    | check =>
      obtain ⟨p, rfl⟩ := exists_point_of_report came
      exact (no_attempt job).elim
    | load | close | stop | disconnect | refresh | lookUp =>
      obtain ⟨p, rfl⟩ := exists_point_of_report came
      cases job
  | autostart => exact .inl rfl
  | connect entry b => exact .inr (.inl ⟨b, rfl⟩)
  | autoconnect b => exact .inr (.inl ⟨b, rfl⟩)
  | guard => exact .inr (.inr rfl)
  | check =>
    obtain ⟨p, rfl⟩ := exists_point_of_report came
    exact (no_attempt job).elim
  | handler =>
    obtain ⟨p, rfl⟩ := exists_point_of_goOn came
    rcases p.job_cases with eq | ⟨q, eq⟩ | ⟨q, eq⟩ <;> cases eq.symm.trans job
  | load | teardown | disconnect | refresh | lookUp =>
    obtain ⟨p, rfl⟩ := exists_point_of_report came
    cases job
  | startLoad | detachedLoad | setup =>
    obtain ⟨p, rfl⟩ := exists_point_of_goOn came
    cases job

/-- All attempts are made by guards. -/
def World.OnlyGuards (w : World) : Prop :=
  ∀ t a, w.outline.job t = .attempt a → a.guarded = true

lemma World.OnlyGuards.move {m : Move} {w' : World} (h : w.OnlyGuards)
    (back : Background w.outline) (move : m.outcome? w = some w')
    (quiet : m.beginsConnect w = false) : w'.OnlyGuards := by
  intro u a after
  rcases Move.attempt_before back move after with kept | ⟨rfl, -⟩
  · exact h u a kept
  · obtain ⟨task, here, -, rfl⟩ := exists_of_turn move
    obtain ⟨next, there, job⟩ := exists_attempt after
    have came : (Task.resume u task w).2 = some next := (point?_advance u task w).symm.trans there
    have owned := ((back.step (Move.step move)).attempt u _ a (outline_owner there) after).1
    rw [owned, Task.owner_resume u came]
    rcases Task.begins_or_goes_on came job with begins | ⟨b, mine⟩ | guard
    · rw [Move.beginsConnect, here] at quiet
      cases quiet.symm.trans begins
    · have at_it := (outline_job here).trans mine
      exact (back.attempt u _ b (outline_owner here) at_it).1 ▸ h u b at_it
    · exact guard

/-- With a call to disconnect, the guard is cancelled, and a connection that is up is taken down. -/
lemma Deed.hangUp_cases {o : Owner} {c d : Outline} {y : Job} (back : Background c)
    (deed : Deed t o c .hangUp d y) : d.guardSlot.occupant = none ∧ d.state = c.state ∧
      d.tunnels = c.tunnels ∧ ∀ b, c.state.active? = some b → c.isConnected b.tunnel = true →
        ∃ p, y = .disconnect p ∧ p.tunnel = b.tunnel := by
  cases deed with
  | dropped _ _ checking => rcases checking with eq | ⟨p, eq⟩ | ⟨p, eq⟩ <;> cases eq
  | takeReady withHandler _ _ asked | take withHandler _ asked =>
    cases withHandler <;> cases asked
  | stay unready =>
    exact ⟨back.no_guard unready, rfl, rfl, fun b ready => by cases unready.symm.trans ready⟩
  | release ready down =>
    refine ⟨TaskSlot.occupant_cancel _, rfl, rfl, fun b ready' up => ?_⟩
    cases ready.symm.trans ready'
    cases down.symm.trans up
  | @hangUp p b ready here =>
    refine ⟨TaskSlot.occupant_cancel _, rfl, rfl, fun b' ready' _ => ⟨p, rfl, ?_⟩⟩
    cases ready.symm.trans ready'
    exact here

/-- Somebody, the task `t`, has disconnected: there is no guard that has not been cancelled, and a
connection that is up is about to be taken down. -/
structure World.HungUp (t : TaskId) (w : World) : Prop where
  alone : w.guardSlot.occupant = none
  guards : w.OnlyGuards
  down : ∀ b, w.state.active? = some b → w.isConnected b.tunnel = true →
    (∃ p, w.outline.job t = .disconnect p ∧ p.tunnel = b.tunnel) ∨
      ∃ u a call, w.outline.job u = .attempt a ∧ a.active.tunnel = b.tunnel ∧ a.step = .undo call

namespace World.HungUp

variable {m : Move} {w' : World}

lemma of_turn {entry : Nat} (regular : w.Regular) (guards : w.OnlyGuards)
    (here : w.schedule.point? t = some (.asked entry .disconnect))
    (turn : (Move.turn t).outcome? w = some w') : w'.HungUp t := by
  have quiet : (Move.turn t).beginsConnect w = false := by
    rw [Move.beginsConnect, here]
    rfl
  obtain ⟨task, d, y, here', turned, ending⟩ := turn_cases turn
  cases here.symm.trans here'
  cases turned with
  | andLost attempt => cases attempt
  | once deed =>
    obtain ⟨alone, state, tunnels, down⟩ := deed.hangUp_cases regular.back
    refine ⟨?_, guards.move regular.back turn quiet, fun b ready up => ?_⟩
    · refine Option.eq_none_iff_forall_ne_some.2 fun u there => ?_
      cases alone.symm.trans (ending.guardSlot_occupant there)
    · have ready : w.outline.state.active? = some b := by
        rw [← state, ← ending.state]
        exact ready
      have up : w.outline.isConnected b.tunnel = true := by
        unfold Outline.isConnected
        rw [← tunnels, ← ending.tunnels]
        exact up
      obtain ⟨p, rfl, same⟩ := down b ready up
      exact .inl ⟨p, ending.job, same⟩

lemma cancelled_guard (h : w.HungUp t) (back : Background w.outline) {u : TaskId} {o : Owner}
    (own : w.outline.owner u = some o) (guard : o.isGuard = true) : w.isCancelled u = true := by
  rcases back.inside_or_cancelled own guard with there | cancelled
  · cases h.alone.symm.trans there
  · exact cancelled

lemma cancelled (h : w.HungUp t) (back : Background w.outline) {u : TaskId} {a : Attempt}
    (at_it : w.outline.job u = .attempt a) : w.isCancelled u = true := by
  obtain ⟨task, here, -⟩ := exists_attempt at_it
  have own := outline_owner here
  exact h.cancelled_guard back own
    ((back.attempt u _ a own at_it).1.symm.trans (h.guards u a at_it))

lemma alone_after (h : w.HungUp t) (move : m.outcome? w = some w') :
    w'.guardSlot.occupant = none := by
  refine Option.eq_none_iff_forall_ne_some.2 fun v there => ?_
  rcases Move.cases move with ⟨u, task, d, y, rfl, here, turned, ending⟩ | ⟨-, happened⟩
  · have there := ending.guardSlot_occupant there
    rcases turned.guardSlot_cases with same | ⟨emptied, -⟩ | ⟨-, -, a, job, unguarded, -⟩
    · rw [same] at there
      cases h.alone.symm.trans there
    · rw [emptied, TaskSlot.occupant_cancel] at there
      cases there
    · cases unguarded.symm.trans (h.guards u a ((outline_job here).trans job))
  · cases ((congrArg TaskSlot.occupant happened.same_slots.2.1).trans h.alone).symm.trans there

lemma ready_before (regular : w.Regular) (move : m.outcome? w = some w') {b : Active}
    (ready : w'.state.active? = some b) (was : w.isConnected b.tunnel = true) :
    w.state.active? = some b := by
  have running := Outline.Served.running (regular.move move).owns ready
  have later := (Move.follows regular.owns move b.tunnel).later
  have begun := regular.placed.begun b.tunnel was
  rw [running] at later
  have before : stageOf w.tunnels b.tunnel = some .running := by
    obtain ⟨stage, there, begun⟩ := (Option.any_eq_true ..).1 begun
    have there : stageOf w.tunnels b.tunnel = some stage := there
    rw [show w.outline.tunnels = w.tunnels from rfl, there] at later
    cases stage with
    | running => exact there
    | created => cases begun
    | stopping | stopped => exact absurd later (by decide)
  obtain ⟨r, phase⟩ := regular.owns.running _ before
  have phase : w.state.phase = .ready r b.tunnel := phase
  have shift := Move.shift move
  generalize w'.state = s at shift ready
  cases shift with
  | same => exact ready
  | begin | take | fail | registered | stalled => cases ready
  | up _ _ now => cases phase.symm.trans now

lemma move (h : w.HungUp t) (regular : w.Regular) (move : m.outcome? w = some w')
    (quiet : m.beginsConnect w = false) : w'.HungUp t := by
  refine ⟨h.alone_after move, h.guards.move regular.back move quiet, fun b ready up => ?_⟩
  rcases Move.isConnected_cases move up with was | ⟨u, a, rfl, at_it, same, -, ends⟩
  · rcases h.down b (ready_before regular move ready was) was with
      ⟨p, at_it, same⟩ | ⟨u, a, call, at_it, same, undo⟩
    · by_cases mine : m = .turn t
      · subst mine
        cases (same ▸ Move.down_of_disconnect move at_it).symm.trans up
      · have kept := Move.job_kept regular.back move (at_it ▸ nofun) mine
        exact .inl ⟨p, kept.trans at_it, same⟩
    · by_cases mine : m = .turn u
      · subst mine
        cases (same ▸ Move.down_of_undo move at_it undo).symm.trans up
      · have kept := Move.job_kept regular.back move (at_it ▸ nofun) mine
        exact .inr ⟨u, a, call, kept.trans at_it, same, undo⟩
  · have cancelled := h.cancelled regular.back at_it
    have live (live : a.guarded = true → w.outline.isCancelled u = false) : False := by
      cases (live (h.guards u a at_it)).symm.trans cancelled
    generalize after : w'.outline.job u = y at ends
    cases ends with
    | inTime _ uncancelled => exact (live uncancelled).elim
    | late _ uncancelled => exact (live uncancelled).elim
    | undo call => exact .inr ⟨u, _, call, after, same, rfl⟩

/-- Once the task has disconnected, and no cancelled guard is there any more, nothing is
connected. -/
lemma no_connection (h : w.HungUp t) (back : Background w.outline)
    (returned : w.schedule.point? t = none)
    (gone : ∀ u g p, w.schedule.point? u = some (.guard g p) → w.isCancelled u = false) :
    w.hasConnection = false := by
  refine Bool.eq_false_iff.2 fun connected => ?_
  obtain ⟨b, ready, up⟩ := (Option.any_eq_true ..).1 connected
  rcases h.down b ready up with ⟨p, at_it, -⟩ | ⟨u, a, call, at_it, -, -⟩
  · rw [show w.outline.job t = jobOf _ from rfl, returned] at at_it
    cases at_it
  · obtain ⟨task, here, job⟩ := exists_attempt at_it
    have guard := (back.attempt u _ a (outline_owner here) at_it).1.symm.trans (h.guards u a at_it)
    cases task with
    | guard g p => cases (gone u g p here).symm.trans (h.cancelled back at_it)
    | _ => cases guard

end World.HungUp

/-- **Cancellation is final.** In its turns, a task that has been cancelled ventures nothing; a
connection that comes up for a cancelled guard is taken down before the guard gives the connect lock
back; and once somebody has disconnected, no backend is connected as soon as the cancelled guards
are gone, unless somebody else connects. -/
theorem cancellation_is_final {s : Setting} {moves : List Move} {w : World}
    (run : s.world.after? moves = some w) :
    (∀ t more, w.isCancelled t = true →
      w.Throughout (fun m v v' => m = .turn t → v.Tame v') more) ∧
    (∀ t g a due lasting w', w.isCancelled t = true →
      w.schedule.point? t = some (.guard g (.attempt a)) →
      a.step = .connect ⟨due, .ok lasting⟩ → (Move.turn t).outcome? w = some w' →
        ∃ call, w'.trace = (w.now, .disconnectTunnel a.active.tunnel) :: w.trace ∧
          ∀ more v, w'.after? more = some v → w'.Throughout (fun m _ _ => m ≠ .turn t) more →
            v.schedule.point? t = some (.guard g (.attempt { a with step := .undo call })) ∧
            v.connectLock.holder = some t ∧
            ∀ v', (Move.turn t).outcome? v = some v' →
              call.due ≤ v.now ∧ v'.isConnected a.active.tunnel = false) ∧
    (∀ t entry w' more v, w.schedule.point? t = some (.asked entry .disconnect) →
      w.OnlyGuards → (Move.turn t).outcome? w = some w' → w'.after? more = some v →
      w'.Throughout (fun m u _ => m.beginsConnect u = false) more →
      v.schedule.point? t = none →
      (∀ u g p, v.schedule.point? u = some (.guard g p) → v.isCancelled u = false) →
        v.hasConnection = false) := by
  have regular : w.Regular := Reaches.regular ⟨moves, run⟩
  refine ⟨fun t more cancelled => ?_, ?_, ?_⟩
  · refine throughout_of (I := fun v => v.Regular ∧ v.isCancelled t = true)
      (fun move h => ⟨⟨h.1.move move, Move.isCancelled move h.2⟩, ?_⟩) ⟨regular, cancelled⟩ more
    rintro rfl
    exact h.1.back.tame_turn h.2 move
  · intro t g a due lasting w' cancelled here success turn
    have own := outline_owner here
    have guarded := (regular.back.attempt t _ a own (outline_job here)).1
    obtain ⟨call, trace, there⟩ := Guard.undoes cancelled guarded here success turn
    refine ⟨call, trace, fun more v run others => ?_⟩
    obtain ⟨regular, makes⟩ := others.keeps
      (I := fun v => v.Regular ∧ v.GuardMakes t g { a with step := .undo call })
      (fun move other h => ⟨h.1.move move, h.2.move h.1.back move other⟩) run
      ⟨regular.move turn, outline_owner there, outline_job there⟩
    have there := point?_of_guard makes.1 makes.2
    refine ⟨there, regular.orderly.holds t _ makes.2 nofun, fun v' turn => ?_⟩
    exact Guard.undone there turn
  · intro t entry w' more v here guards turn run quiet returned gone
    obtain ⟨regular, hungUp⟩ := quiet.keeps (I := fun v => v.Regular ∧ v.HungUp t)
      (fun move quiet h => ⟨h.1.move move, h.2.move h.1 move quiet⟩) run
      ⟨regular.move turn, .of_turn regular guards here turn⟩
    exact hungUp.no_connection regular.back returned gone

/-- While the guard is about to connect the backend again, somebody disconnects: the guard goes on
to connect it, and undoes that. -/
theorem reconnecting_ends_with_disconnect : ∃ w w' v : World,
    ({} : Setting).world.after? (firstBackend ++ reconnecting ++ [.ask .disconnect]) = some w ∧
      (Move.turn 5).outcome? w = some w' ∧ w'.after? [.turn 4, .turn 4] = some v ∧
      v.state.active? = some ⟨1, 0, 0⟩ ∧ v.hasConnection = false := by
  have seen : (({} : Setting).world.after?
      (firstBackend ++ reconnecting ++ [.ask .disconnect])).bind (fun w =>
        ((Move.turn 5).outcome? w).bind fun w' => (w'.after? [.turn 4, .turn 4]).map fun v =>
          (w.schedule.point? 5, w.attempts.all (·.guarded),
            decide (w'.Throughout (fun m u _ => m.beginsConnect u = false) [.turn 4, .turn 4]),
            v.schedule.point? 5, v.schedule.tasks.any (·.2.owner.isGuard), v.state.active?)) =
      some (some (.asked 2 .disconnect), true, true, none, false, some ⟨1, 0, 0⟩) := rfl
  obtain ⟨w, run, seen⟩ := Option.bind_eq_some_iff.1 seen
  obtain ⟨w', turn, seen⟩ := Option.bind_eq_some_iff.1 seen
  obtain ⟨v, more, seen⟩ := Option.map_eq_some_iff.1 seen
  simp only [Prod.mk.injEq, decide_eq_true_eq] at seen
  obtain ⟨here, guarded, quiet, returned, gone, ready⟩ := seen
  refine ⟨w, w', v, run, turn, more, ready, ?_⟩
  have guards : w.OnlyGuards := fun t a at_it => List.all_eq_true.1 guarded a (mem_attempts at_it)
  refine (cancellation_is_final run).2.2 5 2 w' _ v here guards turn more quiet returned ?_
  intro u g p there
  cases List.any_eq_false.1 gone _ (Schedule.mem_of_point? there) rfl

end TunnelKeeper.Coordinator
