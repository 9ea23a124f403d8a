import TunnelKeeper.Coordinator.Run

/-!
All interleavings. In a move, any task that need not wait goes on to its next point, a TLS context
is built, time passes, or something happens outside. Who comes next is open, so whatever holds of
all worlds that can be reached holds in particular when tasks take turns in the order in which they
were woken (`reaches_settleDown`, `reaches_elapse`).
-/

namespace TunnelKeeper.Coordinator

open Cooperative

/-- What may happen next. -/
inductive Move where
  /-- A task goes on from its point to the next. -/
  | turn (t : TaskId)
  /-- The tasks that have been woken stand in another order. -/
  | line (queue : List TaskId)
  /-- A TLS context is built. -/
  | build
  /-- Time passes. -/
  | time (now : Nat)
  /-- An operation is asked for. -/
  | ask (operation : Operation)
  /-- A caller that waits for a token gives up. -/
  | giveUp (t : TaskId)
  /-- The relay drops a connection. -/
  | drop (tunnel : Option TunnelId)
  /-- The host answers otherwise from now on. -/
  | host (runtimeReady autostart : Bool)
  /-- The collaborators answer otherwise from now on. -/
  | answers (scripts : Scripts)
  /-- The wall clock is set, to a time given as that of the start. -/
  | clock (startMillis : Int)

/-- The world after a move, if it can be made. -/
def Move.outcome? : Move → World → Option World
  | turn t, w => do
    let task ← w.schedule.point? t
    if w.ready t task then some (advance t task w) else none
  | line queue, w => some { w with schedule := { w.schedule with queue := queue } }
  | build, w => w.finishBuild?
  | time now, w =>
    if w.now ≤ now then some { w with schedule := { w.schedule with now := now } } else none
  | ask operation, w => some (w.ask operation)
  | giveUp t, w => w.giveUp? t
  | drop tunnel, w => some (w.dropConnection tunnel)
  | host runtimeReady autostart, w =>
    some { w with runtimeReady := runtimeReady, autostart := autostart }
  | answers scripts, w => some { w with scripts := scripts }
  | clock startMillis, w => some { w with startMillis := startMillis }

/-- The world after some moves, if they can be made one after the other. -/
def World.after? (w : World) : List Move → Option World
  | [] => some w
  | m :: moves => m.outcome? w >>= (World.after? · moves)

/-- Some moves lead from one world to another. -/
def Reaches (w w' : World) : Prop := ∃ moves, w.after? moves = some w'

theorem after?_append (w : World) (moves more : List Move) :
    w.after? (moves ++ more) = w.after? moves >>= (World.after? · more) := by
  induction moves generalizing w with
  | nil => rfl
  | cons m moves ih => cases h : m.outcome? w <;> simp [World.after?, h, ih]

namespace Reaches

theorem refl (w : World) : Reaches w w := ⟨[], rfl⟩

theorem trans {w w' w'' : World} (run : Reaches w w') (more : Reaches w' w'') : Reaches w w'' := by
  obtain ⟨moves, run⟩ := run
  obtain ⟨rest, more⟩ := more
  exact ⟨moves ++ rest, by simp [after?_append, run, more]⟩

theorem move {w w' : World} {m : Move} (h : m.outcome? w = some w') : Reaches w w' :=
  ⟨[m], by simp [World.after?, h]⟩

/-- What every move keeps is kept. -/
theorem keeps {P : World → Prop} (step : ∀ {m : Move} {w w'}, m.outcome? w = some w' → P w → P w')
    {w w' : World} (run : Reaches w w') (h : P w) : P w' := by
  obtain ⟨moves, run⟩ := run
  induction moves generalizing w with
  | nil => exact Option.some.inj run ▸ h
  | cons m moves ih =>
    obtain ⟨next, first, rest⟩ := Option.bind_eq_some_iff.1 run
    exact ih (step first h) rest

end Reaches

/-! ### Taking turns -/

theorem reaches_poll (points : Nat) (t : TaskId) (w : World) : Reaches w (poll points t w) := by
  induction points generalizing w with
  | zero => exact .refl w
  | succ points ih =>
    unfold poll
    split
    · exact .refl w
    · next task here =>
      split
      · next ready =>
        have turn : (Move.turn t).outcome? w = some (advance t task w) := by
          have here : w.schedule.point? t = some task := here
          have ready : w.ready t task = true := ready
          simp [Move.outcome?, here, ready]
        exact (Reaches.move turn).trans (ih _)
      · exact .refl w

theorem reaches_drain (points turns : Nat) (w : World) : Reaches w (drain points turns w) := by
  induction turns generalizing w with
  | zero => exact .refl w
  | succ turns ih =>
    unfold drain
    split
    · next t rest _ =>
      exact (Reaches.move (m := .line _) rfl).trans ((reaches_poll points t _).trans (ih _))
    · split
      · next built => exact (Reaches.move (m := .build) built).trans (ih _)
      · exact .refl w

/-- Taking turns is one of the interleavings. -/
theorem reaches_settleDown (w : World) : Reaches w (settleDown w) :=
  reaches_drain patience patience w

theorem reaches_passTo (w : World) (t : Nat) : Reaches w (mapSchedule (·.passTo t) w) :=
  .move (m := .time _) (if_pos (Nat.le_max_left w.now t))

theorem reaches_wakeAt (w : World) (t : Nat) :
    Reaches w (mapSchedule (·.wakeAt World.alarm t) w) := by
  have woken := (w.schedule.passTo t).wakeWhere_eq fun p => World.alarm p = some t
  have eq : (mapSchedule (·.wakeAt World.alarm t) w : World) =
      { w with schedule :=
        { w.schedule.passTo t with queue := (w.schedule.wakeAt World.alarm t).queue } } :=
    congrArg (fun s => { w with schedule := s }) woken
  rw [eq]
  exact (reaches_passTo w t).trans (.move (m := .line _) rfl)

theorem reaches_passTime (points turns alarms target : Nat) (w : World) :
    Reaches w (passTime points turns alarms target w) := by
  induction alarms generalizing w with
  | zero => exact reaches_passTo w target
  | succ alarms ih =>
    have drained := reaches_drain points turns w
    unfold passTime
    dsimp only
    split
    · split
      · exact drained.trans ((reaches_wakeAt _ _).trans (ih _))
      · exact drained.trans (reaches_passTo _ target)
    · exact drained.trans (reaches_passTo _ target)

/-- So is letting time pass. -/
theorem reaches_elapse (ms : Nat) (w : World) : Reaches w (elapse ms w) :=
  reaches_passTime patience patience patience _ w

end TunnelKeeper.Coordinator
