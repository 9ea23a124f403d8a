import TunnelKeeper.Schedule.TaskSlot

/-!
A slot with simple tasks in it, which log what happens to them: tasks that wait for cancellation,
for a release from outside or for some time, and tasks that end at once or fail.
-/

namespace TunnelKeeper.Probe

/-- What a task does. -/
inductive Kind where
  | untilCancel
  /-- Waits to be released and ignores cancellation. -/
  | untilRelease
  /-- Waits for some milliseconds and ignores cancellation. -/
  | sleep (ms : Nat)
  | sleepOrCancel (ms : Nat)
  | fail
  | immediate
  deriving DecidableEq, Repr

/-- A task by its label, and where it is: not started yet, or waiting until its time has come. -/
structure Point where
  label : Int
  kind : Kind
  due : Option Nat := none
  started : Bool := false

inductive Entry where
  | make (label : Int)
  | start (label : Int)
  | done (label : Int) (cancelled : Bool)

/-- The slot and its tasks. -/
structure World where
  schedule : Schedule Point := {}
  slot : TaskSlot := {}
  /-- The tasks that have been released. -/
  released : List TaskId := []
  /-- What happened, with the time, the latest first. -/
  log : List (Nat × Entry) := []

namespace World

def record (w : World) (e : Entry) : World := { w with log := (w.schedule.now, e) :: w.log }

/-- The time at which a task wakes by itself. -/
def alarm (p : Point) : Option Nat := if p.started then p.due else none

def isDue (w : World) (p : Point) : Bool := p.due.any (· ≤ w.schedule.now)

def ready (w : World) (t : TaskId) (p : Point) : Bool :=
  !p.started ||
    match p.kind with
    | .untilCancel => w.slot.isCancelled t
    | .untilRelease => t ∈ w.released
    | .sleep _ => w.isDue p
    | .sleepOrCancel _ => w.slot.isCancelled t || w.isDue p
    | .fail => true
    | .immediate => true

/-- Starts a task, or ends it once it need not wait any longer. -/
def resume (t : TaskId) (p : Point) (w : World) : World × Option Point :=
  if p.started then
    (if p.kind = .fail then w else w.record (.done p.label (w.slot.isCancelled t)), none)
  else
    let due := match p.kind with
      | .sleep ms => some (w.schedule.now + ms)
      | .sleepOrCancel ms => some (w.schedule.now + ms)
      | _ => none
    (w.record (.start p.label), some { p with due := due, started := true })

instance : Cooperative World Point where
  schedule := schedule
  withSchedule w s := { w with schedule := s }
  ready := ready
  alarm _ := alarm
  resume := resume
  finish t w := { w with slot := w.slot.finish t }
  settle _ := none

/-- Spawns a task unless the slot is occupied. Whether it did. -/
def spawnIfIdle (w : World) (label : Int) (kind : Kind) : Bool × World :=
  if w.slot.isRunning then (false, w)
  else
    let t := w.schedule.next
    let made := w.record (.make label)
    (true, { made with
      schedule := w.schedule.spawn { label := label, kind := kind }
      slot := w.slot.occupy t })

/-- Cancels the occupant of the slot. Whether there was one. -/
def cancel (w : World) : Bool × World :=
  match w.slot.occupant with
  | none => (false, w)
  | some t => (true, { w with slot := w.slot.cancel, schedule := w.schedule.wake t })

/-- Releases the latest task of a label. Whether it was still there and not released before. -/
def release (w : World) (label : Int) : Bool × World :=
  match (w.schedule.tasks.filter fun (_, p) => p.label = label).map (·.1) |>.max? with
  | none => (false, w)
  | some t =>
    if t ∈ w.released then (false, w)
    else (true, { w with released := t :: w.released, schedule := w.schedule.wake t })

end World

end TunnelKeeper.Probe
