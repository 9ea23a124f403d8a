import TunnelKeeper.Proofs.Cancellation
import TunnelKeeper.Proofs.Newcomers
import TunnelKeeper.Proofs.Voices

/-!
Who tells the host that a connection is gone: a call to disconnect when it returns, and a guard that
finds the connection down. A guard that has been cancelled does so in its first turn at most, for it
looks at the connection there before it looks whether it has been cancelled.
-/

namespace TunnelKeeper.Coordinator

open World Cooperative

/-! ### What is heard of lost connections -/

def Event.isDisconnected : Event → Bool
  | signal .disconnected => true
  | _ => false

def Outline.disconnections (c : Outline) : Nat := c.heard.countP Event.isDisconnected

/-- How often the host has heard of a connection that is gone. -/
def World.disconnections (w : World) : Nat := w.heard.countP Event.isDisconnected

lemma World.outline_disconnections (w : World) : w.outline.disconnections = w.disconnections :=
  congrArg _ w.outline_heard

/-- The job is a call to disconnect that is under way. -/
def Job.hangsUp : Job → Bool
  | disconnect _ => true
  | _ => false

lemma Job.hangsUp_iff {x : Job} : x.hangsUp = true ↔ ∃ p, x = .disconnect p := by
  cases x <;> simp [hangsUp]

lemma Outline.disconnections_of_other {c d : Outline} {e : Event} (added : d.events = e :: c.events)
    (other : e.isDisconnected = false) : d.disconnections = c.disconnections := by
  unfold disconnections heard
  rw [added, List.filter_cons]
  split
  · exact List.countP_cons_of_neg (by rw [other]; nofun)
  · rfl

/-- But for the deeds of a guard, a call to disconnect that returns is heard of, and nothing else
is. -/
lemma Deed.disconnections {t : TaskId} {o : Owner} {c d : Outline} {x y : Job}
    (deed : Deed t o c x d y) (other : o.isGuard = false ∨ x ≠ .rest) :
    d.disconnections = c.disconnections + x.hangsUp.toNat := by
  cases hangs : x.hangsUp with
  | true =>
    obtain ⟨p, rfl⟩ := Job.hangsUp_iff.1 hangs
    rw [deed.eq_of_disconnect]
    exact List.countP_cons_of_pos rfl
  | false =>
    show d.disconnections = c.disconnections
    rcases deed.events_cases with same | ⟨e, added, voice⟩
    · unfold Outline.disconnections Outline.heard
      rw [same]
    · refine Outline.disconnections_of_other added (Bool.eq_false_iff.2 fun tells => ?_)
      cases e with
      | signal e =>
        cases e with
        | disconnected =>
          rcases voice with ⟨p, rfl⟩ | ⟨rest, guard⟩
          · cases hangs
          · rcases other with free | busy
            · cases free.symm.trans guard
            · exact busy rest
        | _ => cases tells
      | _ => cases tells

/-! ### The guard -/

/-- The backend of a generation is ready, and its tunnel is down. -/
def World.findsLost (w : World) (g : Nat) : Bool :=
  (w.state.activeFor? g).any fun b => !w.isConnected b.tunnel

def Progress.isDone {P R : Type} : Progress P R → Bool
  | done _ => true
  | _ => false

/-- In its turn, the guard finds the connection down and reports it: at first in any case, later
unless it has been cancelled. -/
def GuardPoint.reports (t : TaskId) (g : Nat) (w : World) : GuardPoint → Bool
  | start => w.findsLost g
  | watch _ => !w.isCancelled t
  | sleep _ => false
  | attempt a =>
    !w.isCancelled t && (Connect.resume t a w).2.isDone && (Connect.resume t a w).1.findsLost g

variable {t : TaskId} {g : Nat} {w : World}

namespace Guard

lemma disconnections_lost (w : World) : (lost w).1.disconnections = w.disconnections + 1 :=
  List.countP_cons_of_pos rfl

lemma disconnections_round (w : World) :
    (round g w).1.disconnections = w.disconnections + (w.findsLost g).toNat := by
  unfold round World.findsLost
  cases ready : w.state.activeFor? g with
  | none => rfl
  | some b =>
    cases up : w.isConnected b.tunnel with
    | true => simp [up]
    | false => simp [up, disconnections_lost]

lemma findsLost_of_connected {b : Active} (ready : w.state.active? = some b)
    (up : w.isConnected b.tunnel = true) : w.findsLost g = false := by
  unfold World.findsLost BackendState.activeFor?
  rw [ready, Option.filter_some]
  split
  · rw [Option.any_some, up, Bool.not_true]
  · rfl

lemma disconnections_attempting {turn : Turn Attempt Result}
    (ok : (∃ a, turn.2 = .wait a) ∨ turn.2 = .done .ok) :
    (attempting t g turn).1.disconnections = turn.1.disconnections +
      (!turn.1.isCancelled t && turn.2.isDone && turn.1.findsLost g).toNat := by
  obtain ⟨v, progress⟩ := turn
  obtain ⟨a, rfl : progress = _⟩ | (rfl : progress = _) := ok
  · simp [attempting, Progress.isDone]
  · cases cancelled : v.isCancelled t with
    | true => simp [attempting, cancelled]
    | false => simp [attempting, cancelled, Progress.isDone, disconnections_round]

lemma disconnections_resume (p : GuardPoint) (w : World) :
    (resume t g p w).1.disconnections = w.disconnections + (p.reports t g w).toNat := by
  cases p with
  | start => exact disconnections_round w
  | watch n =>
    unfold resume GuardPoint.reports
    cases cancelled : w.isCancelled t with
    | true => rfl
    | false => exact disconnections_lost w
  | sleep due =>
    unfold resume GuardPoint.reports
    cases cancelled : w.isCancelled t with
    | true => rfl
    | false =>
      unfold Connect.start
      cases ready : w.state.active? with
      | none => rfl
      | some b =>
        cases up : w.isConnected b.tunnel with
        | false => simp [up, attempting, World.enterConnectLock]; rfl
        | true =>
          have none := findsLost_of_connected (g := g) ready up
          simp [up, attempting, cancelled, disconnections_round, none]
  | attempt a =>
    have deed := Connect.deed_resume t (.guard g) a w
    have kept := congrFun deed.attempt_keeps.2 t
    have kept : (Connect.resume t a w).1.isCancelled t = w.isCancelled t := kept
    have quiet : (Connect.resume t a w).1.disconnections = w.disconnections := by
      rw [← outline_disconnections, deed.disconnections (.inr (by simp)), outline_disconnections]
      rfl
    rw [show resume t g (.attempt a) w = attempting t g (Connect.resume t a w) from rfl,
      disconnections_attempting (Connect.wait_or_ok t a w), kept, quiet]
    rfl

end Guard

/-! ### Everybody -/

/-- In its turn, the task tells the host that a connection is gone. -/
def Task.reports (t : TaskId) (w : World) : Task → Bool
  | disconnect _ _ => true
  | guard g p => p.reports t g w
  | _ => false

/-- In this move, the host hears that a connection is gone. -/
def Move.reports (m : Move) (w : World) : Bool :=
  match m with
  | turn t => (w.schedule.point? t).any (Task.reports t w)
  | _ => false

lemma Task.hangsUp_job {task : Task} (own : task.owner.isGuard = false) :
    task.job.hangsUp = task.reports t w := by
  cases task with
  | asked _ operation => cases operation <;> rfl
  | check _ p => rcases p.job_cases with eq | ⟨q, eq⟩ | ⟨q, eq⟩ <;> simp [job, eq] <;> rfl
  | handler p => rcases p.job_cases with eq | ⟨q, eq⟩ | ⟨q, eq⟩ <;> simp [job, eq] <;> rfl
  | guard => cases own
  | _ => rfl

/-- The host hears of each of these moves once, and of nothing else. -/
lemma Move.disconnections {m : Move} {w' : World} (move : m.outcome? w = some w') :
    w'.disconnections = w.disconnections + (m.reports w).toNat := by
  by_cases turn : ∃ t, m = .turn t
  · obtain ⟨t, rfl⟩ := turn
    obtain ⟨task, here, -, rfl⟩ := exists_of_turn move
    have after : (advance t task w).disconnections = (Task.resume t task w).1.disconnections := by
      rw [advance_eq]
      rfl
    rw [after, Move.reports, here, Option.any_some]
    cases own : task.owner.isGuard with
    | true =>
      cases task with
      | guard g p =>
        rw [Task.resume, Task.goOn_fst]
        exact Guard.disconnections_resume p w
      | _ => cases own
    | false =>
      have turned := Task.turned_resume t task w
      rw [← outline_disconnections, ← outline_disconnections, ← Task.hangsUp_job own]
      generalize (Task.resume t task w).1.outline = d, jobOf (Task.resume t task w).2 = y at turned
      cases turned with
      | once deed => exact deed.disconnections (.inl own)
      | andLost _ _ guard =>
        rw [guard] at own
        cases own
  · have other (t : TaskId) : m ≠ .turn t := fun same => turn ⟨t, same⟩
    have silent : m.reports w = false := by
      cases m with
      | turn t => exact absurd rfl (other t)
      | _ => rfl
    rw [silent, ← outline_disconnections, ← outline_disconnections]
    unfold Outline.disconnections
    rw [(Move.outside move other).heard]
    rfl

/-! ### Guards that have been cancelled -/

def GuardPoint.isStart : GuardPoint → Bool
  | start => true
  | _ => false

/-- Once it has been cancelled, a guard reports a loss at its first point only. -/
lemma GuardPoint.reports_of_cancelled (cancelled : w.isCancelled t = true) (p : GuardPoint) :
    p.reports t g w = (p.isStart && w.findsLost g) := by
  cases p with
  | start => rfl
  | sleep due => rfl
  | watch n => simp [reports, isStart, cancelled]
  | attempt a => simp [reports, isStart, cancelled]

/-- The task has been cancelled, and it is no guard that has yet to begin. -/
structure World.Silenced (t : TaskId) (w : World) : Prop where
  cancelled : w.isCancelled t = true
  begun : ∀ g, w.schedule.point? t ≠ some (.guard g .start)

namespace World.Silenced

variable {m : Move} {w' : World}

lemma move (h : w.Silenced t) (back : Background w.outline) (move : m.outcome? w = some w') :
    w'.Silenced t := by
  have cancelled := Move.isCancelled move h.cancelled
  refine ⟨cancelled, fun g there => h.begun g (Move.unbegun_before back move there ?_)⟩
  intro inside
  cases ((back.step (Move.step move)).live_of_guard inside).symm.trans cancelled

lemma reports (h : w.Silenced t) (back : Background w.outline) :
    (Move.turn t).reports w = false := by
  rw [Move.reports]
  cases here : w.schedule.point? t with
  | none => rfl
  | some task =>
    rw [Option.any_some]
    cases task with
    | guard g p =>
      rw [Task.reports, GuardPoint.reports_of_cancelled h.cancelled]
      cases p with
      | start => exact absurd here (h.begun g)
      | _ => rfl
    | disconnect entry p =>
      rcases back.owner_of_cancelled h.cancelled (outline_owner here) with other | other <;>
        cases other
    | _ => rfl

end World.Silenced

/-! ### Calls to disconnect -/

/-- It is a turn of the task. -/
def Move.turns (t : TaskId) : Move → Bool
  | turn u => u = t
  | _ => false

/-- In this move, a call to disconnect returns that has taken a connection down. -/
def Move.hangsUp (m : Move) (w : World) : Bool :=
  match m with
  | turn t => (w.schedule.point? t).any fun task => task.job.hangsUp
  | _ => false

/-- The task is in the middle of a call to disconnect, or it is over. -/
structure World.HangsUp (t : TaskId) (entry : Nat) (w : World) : Prop where
  old : t < w.schedule.next
  point : ∀ task, w.schedule.point? t = some task → ∃ p, task = .disconnect entry p

/-- Whether the call is still under way. -/
def World.hangsUp (t : TaskId) (w : World) : Bool := (w.outline.job t).hangsUp

lemma World.hangsUp_of_none (gone : w.schedule.point? t = none) : w.hangsUp t = false := by
  rw [hangsUp, show w.outline.job t = jobOf _ from rfl, gone]
  rfl

lemma World.hangsUp_of_point {entry : Nat} {p : DisconnectPoint}
    (here : w.schedule.point? t = some (.disconnect entry p)) : w.hangsUp t = true := by
  rw [hangsUp, outline_job here]
  rfl

lemma Disconnect.start_cases (w : World) :
    (w.hasConnection = true ∧ ∃ p, (start w).2 = .wait p) ∨
      w.hasConnection = false ∧ ∀ p, (start w).2 ≠ .wait p := by
  unfold start World.hasConnection
  cases ready : w.state.active? with
  | none => exact .inr ⟨rfl, nofun⟩
  | some b =>
    have same : w.cancelGuard.isConnected b.tunnel = w.isConnected b.tunnel :=
      congrArg (fun c : Outline => c.isConnected b.tunnel) w.outline_cancelGuard
    dsimp only
    rw [Option.any_some, same]
    split
    · next up => exact .inl ⟨up, _, rfl⟩
    · next down => exact .inr ⟨Bool.eq_false_iff.2 down, nofun⟩

lemma World.HangsUp.of_turn {entry : Nat} {w' : World} (back : Background w.outline)
    (here : w.schedule.point? t = some (.asked entry .disconnect))
    (turn : (Move.turn t).outcome? w = some w') :
    w'.HangsUp t entry ∧ w'.hangsUp t = w.hasConnection := by
  have old : t < w'.schedule.next :=
    Nat.lt_of_lt_of_le (back.sound.lt_next (outline_owner here)) (Move.next_le turn)
  obtain ⟨task, here', -, rfl⟩ := exists_of_turn turn
  cases here.symm.trans here'
  have after := point?_advance t (.asked entry .disconnect) w
  generalize advance t (.asked entry .disconnect) w = v at old after
  rcases Disconnect.start_cases w with ⟨connected, p, waits⟩ | ⟨down, ended⟩
  · have there : v.schedule.point? t = some (.disconnect entry p) := by
      rw [after, Task.resume, Task.begin]
      generalize Disconnect.start w = turn at waits
      obtain ⟨u, progress⟩ := turn
      cases waits
      rfl
    refine ⟨⟨old, fun task there' => ⟨p, ?_⟩⟩, (hangsUp_of_point there).trans connected.symm⟩
    exact Option.some.inj (there'.symm.trans there)
  · have gone : v.schedule.point? t = none := by
      rw [after, Task.resume, Task.begin]
      generalize Disconnect.start w = turn at ended
      obtain ⟨u, p | _ | _⟩ := turn
      · exact absurd rfl (ended p)
      · rfl
      · rfl
    refine ⟨⟨old, fun task there => ?_⟩, (hangsUp_of_none gone).trans down.symm⟩
    cases gone.symm.trans there

/-- The host hears of the call once, when it returns. -/
lemma World.HangsUp.move {entry : Nat} {m : Move} {w' : World} (h : w.HangsUp t entry)
    (back : Background w.outline) (move : m.outcome? w = some w') :
    w'.HangsUp t entry ∧
      (w'.hangsUp t).toNat + (m.reports w && m.turns t).toNat = (w.hangsUp t).toNat := by
  have old : t < w'.schedule.next := Nat.lt_of_lt_of_le h.old (Move.next_le move)
  by_cases mine : m = .turn t
  · subst mine
    obtain ⟨task, here, -, rfl⟩ := exists_of_turn move
    obtain ⟨p, rfl⟩ := h.point task here
    have gone : (advance t (.disconnect entry p) w).schedule.point? t = none :=
      point?_advance t (.disconnect entry p) w
    refine ⟨⟨old, fun task there => by cases gone.symm.trans there⟩, ?_⟩
    rw [hangsUp_of_none gone, hangsUp_of_point here, Move.reports, here]
    simp [Move.turns, Task.reports]
  · have other : m.turns t = false := by
      cases m with
      | turn u => exact decide_eq_false fun same => mine (congrArg _ same)
      | _ => rfl
    rw [other, Bool.and_false]
    cases here : w.schedule.point? t with
    | some task =>
      obtain ⟨p, rfl⟩ := h.point task here
      have kept := Move.point?_kept move here mine rfl
      refine ⟨⟨old, fun task there => ⟨p, ?_⟩⟩, ?_⟩
      · exact Option.some.inj (there.symm.trans kept)
      · rw [hangsUp_of_point here, hangsUp_of_point kept]
        rfl
    | none =>
      have gone := Move.gone back move h.old here
      refine ⟨⟨old, fun task there => by cases gone.symm.trans there⟩, ?_⟩
      rw [hangsUp_of_none here, hangsUp_of_none gone]
      rfl

/-- While somebody hangs up and nobody connects, no guard reports a loss. -/
lemma World.HungUp.hangsUp {m : Move} (h : w.HungUp t) (back : Background w.outline)
    (begun : ∀ u g, w.schedule.point? u ≠ some (.guard g .start)) (reports : m.reports w = true) :
    m.hangsUp w = true := by
  cases m with
  | turn u =>
    obtain ⟨task, here, reports⟩ := (Option.any_eq_true ..).1 reports
    rw [Move.hangsUp, here, Option.any_some]
    cases task with
    | disconnect => rfl
    | guard g p =>
      have silenced : w.Silenced u :=
        ⟨h.cancelled_guard back (outline_owner here) rfl, begun u⟩
      have silent := silenced.reports back
      rw [Move.reports, here] at silent
      cases silent.symm.trans reports
    | _ => cases reports
  | _ => cases reports

/-- **A cancelled guard is silent once it has begun.** The host hears of a lost connection as often
as a call to disconnect has returned that took one down, and a guard has found one down. A guard
that has been cancelled finds one down in its first turn only. So what the host hears during a call
to disconnect is the call itself, once if there is a connection and else not at all, and others that
report meanwhile; and these are no guards if all have begun by then and nobody connects. -/
theorem cancelled_guard_is_silent_once_begun {s : Setting} {moves : List Move} {w : World}
    (run : s.world.after? moves = some w) :
    w.disconnections = s.world.tally Move.reports moves ∧
    (∀ t g p w' more, w.schedule.point? t = some (.guard g p) → w.isCancelled t = true →
      (Move.turn t).outcome? w = some w' →
        w'.disconnections = w.disconnections + (p.isStart && w.findsLost g).toNat ∧
        w'.Throughout (fun m v v' => m = .turn t → v'.disconnections = v.disconnections) more) ∧
    (∀ t entry w' more v, w.schedule.point? t = some (.asked entry .disconnect) →
      (Move.turn t).outcome? w = some w' → w'.after? more = some v → v.schedule.point? t = none →
        v.disconnections = w.disconnections + w.hasConnection.toNat +
          w'.tally (fun m u => m.reports u && !m.turns t) more ∧
        (w.OnlyGuards → (∀ u g, w.schedule.point? u ≠ some (.guard g .start)) →
          w'.Throughout (fun m u _ => m.beginsConnect u = false) more →
            w'.Throughout (fun m u _ => m.reports u = true → m.hangsUp u = true) more)) := by
  have regular : w.Regular := Reaches.regular ⟨moves, run⟩
  have counted {v v' : World} {more : List Move} (run : v.after? more = some v') :
      v'.disconnections = v.disconnections + v.tally Move.reports more :=
    eq_add_tally (I := fun _ => True) (f := World.disconnections) (fun _ _ => trivial)
      (fun move _ => Move.disconnections move) run trivial
  refine ⟨?_, ?_, ?_⟩
  · rw [counted run]
    exact Nat.zero_add _
  · intro t g p w' more here cancelled turn
    have reports : (Move.turn t).reports w = (p.isStart && w.findsLost g) := by
      rw [Move.reports, here]
      exact p.reports_of_cancelled cancelled
    refine ⟨reports ▸ Move.disconnections turn, ?_⟩
    have begun (g' : Nat) : w'.schedule.point? t ≠ some (.guard g' .start) := by
      intro there
      obtain ⟨p', -, goesOn, -⟩ := Move.guard_goes_on turn there
      exact Guard.wait_ne_start p' w goesOn
    refine throughout_of (I := fun v => v.Regular ∧ v.Silenced t) (fun move h => ?_)
      ⟨regular.move turn, Move.isCancelled turn cancelled, begun⟩ more
    refine ⟨⟨h.1.move move, h.2.move h.1.back move⟩, ?_⟩
    rintro rfl
    rw [Move.disconnections move, h.2.reports h.1.back]
    rfl
  · intro t entry w' more v here turn run returned
    obtain ⟨hangsUp, connected⟩ := World.HangsUp.of_turn regular.back here turn
    refine ⟨?_, fun guards begun quiet => ?_⟩
    · have own := add_tally_eq (P := fun _ _ => false) (Q := fun m u => m.reports u && m.turns t)
        (I := fun u => u.Regular ∧ u.HangsUp t entry) (f := fun u => (u.hangsUp t).toNat)
        (fun move h => ⟨h.1.move move, (h.2.move h.1.back move).1⟩)
        (fun move h => (h.2.move h.1.back move).2) run ⟨regular.move turn, hangsUp⟩
      have silent : (Move.turn t).reports w = false := by
        rw [Move.reports, here]
        rfl
      rw [hangsUp_of_none returned, tally_false, connected] at own
      have first := Move.disconnections turn
      rw [silent] at first
      rw [counted run, tally_split _ fun m _ => m.turns t, first]
      simp only [Bool.toNat_false, Nat.add_zero, Nat.zero_add] at own ⊢
      omega
    · have hungUp := World.HungUp.of_turn regular guards here turn
      have begun' (u : TaskId) (g : Nat) : w'.schedule.point? u ≠ some (.guard g .start) :=
        fun there => begun u g (Move.unbegun_before regular.back turn there (hungUp.alone ▸ nofun))
      refine quiet.implies (I := fun u => u.Regular ∧ u.HungUp t ∧
          ∀ v g, u.schedule.point? v ≠ some (.guard g .start)) (fun move quiet h => ?_)
        ⟨regular.move turn, hungUp, begun'⟩
      obtain ⟨regular, hungUp, begun⟩ := h
      have after := hungUp.move regular move quiet
      refine ⟨⟨regular.move move, after, fun u g there => begun u g ?_⟩,
        fun reports => hungUp.hangsUp regular.back begun reports⟩
      exact Move.unbegun_before regular.back move there (after.alone ▸ nofun)

/-- Somebody disconnects while the guard watches the connection: the guard ends in silence, and the
host hears once that the connection is gone. -/
theorem watching_guard_is_silenced : ∃ w w' u v : World,
    ({} : Setting).world.after? (firstBackend ++ [.turn 4, .ask .disconnect]) = some w ∧
      (Move.turn 5).outcome? w = some w' ∧ (Move.turn 4).outcome? w' = some u ∧
      u.disconnections = w'.disconnections ∧ w'.after? [.turn 4, .turn 5] = some v ∧
      v.disconnections = w.disconnections + 1 ∧
      w'.Throughout (fun m u _ => m.reports u = true → m.hangsUp u = true) [.turn 4, .turn 5] := by
  have seen : (({} : Setting).world.after? (firstBackend ++ [.turn 4, .ask .disconnect])).bind
      (fun w => ((Move.turn 5).outcome? w).bind fun w' => ((Move.turn 4).outcome? w').bind fun u =>
        (w'.after? [.turn 4, .turn 5]).map fun v =>
          (w.schedule.point? 5, w.hasConnection, w.attempts.isEmpty, w'.schedule.point? 4,
            w'.isCancelled 4, w.schedule.tasks.any (·.2.isNew),
            decide (w'.Throughout (fun m u _ => m.beginsConnect u = false) [.turn 4, .turn 5]),
            w'.tally (fun m u => m.reports u && !m.turns 5) [.turn 4, .turn 5],
            v.schedule.point? 5)) =
      some (some (.asked 2 .disconnect), true, true, some (.guard 1 (.watch 0)), true, false, true,
        0, none) := rfl
  obtain ⟨w, run, seen⟩ := Option.bind_eq_some_iff.1 seen
  obtain ⟨w', turn, seen⟩ := Option.bind_eq_some_iff.1 seen
  obtain ⟨u, next, seen⟩ := Option.bind_eq_some_iff.1 seen
  obtain ⟨v, more, seen⟩ := Option.map_eq_some_iff.1 seen
  simp only [Prod.mk.injEq, decide_eq_true_eq] at seen
  obtain ⟨here, connected, nobody, watching, cancelled, begun, quiet, others, returned⟩ := seen
  have run' : ({} : Setting).world.after?
      ((firstBackend ++ [.turn 4, .ask .disconnect]) ++ [.turn 5]) = some w' := by
    rw [after?_append, run]
    simp [World.after?, turn]
  have silent := ((cancelled_guard_is_silent_once_begun run').2.1 4 1 _ u [] watching cancelled
    next).1
  obtain ⟨heard, guards⟩ := (cancelled_guard_is_silent_once_begun run).2.2 5 2 w' _ v here turn more
    returned
  rw [connected, others] at heard
  refine ⟨w, w', u, v, run, turn, next, silent, more, heard, guards ?_ ?_ quiet⟩
  · intro t a at_it
    have there := mem_attempts at_it
    rw [List.isEmpty_iff.1 nobody] at there
    cases there
  · intro t g there
    cases List.any_eq_false.1 begun _ (Schedule.mem_of_point? there) rfl

/-- Somebody disconnects before the guard has had its first turn. -/
def disconnectedAtOnce : List Move := firstBackend ++ [.ask .disconnect, .turn 5, .turn 5]

/-- The host has heard of it, and hears of it once more from the guard, which has been cancelled. -/
theorem cancelled_guard_reports_once_more : ∃ w w' : World,
    ({} : Setting).world.after? disconnectedAtOnce = some w ∧ w.isCancelled 4 = true ∧
      w.schedule.point? 5 = none ∧ w.disconnections = 1 ∧
      (Move.turn 4).outcome? w = some w' ∧ w'.disconnections = 2 := by
  have seen : (({} : Setting).world.after? disconnectedAtOnce).bind (fun w =>
      ((Move.turn 4).outcome? w).map fun w' => (w.isCancelled 4, w.schedule.point? 5,
        w.disconnections, w'.disconnections)) = some (true, none, 1, 2) := rfl
  obtain ⟨w, run, seen⟩ := Option.bind_eq_some_iff.1 seen
  obtain ⟨w', turn, seen⟩ := Option.map_eq_some_iff.1 seen
  simp only [Prod.mk.injEq] at seen
  obtain ⟨cancelled, returned, once, twice⟩ := seen
  exact ⟨w, w', run, cancelled, returned, once, turn, twice⟩

end TunnelKeeper.Coordinator
