import TunnelKeeper.Time.Duration

/-!
Tasks that take turns on one thread in virtual time.

A task is at a point of its program, where it waits for something. Tasks that have been woken stand
in a queue. The first of them runs, from point to point, until it really has to wait or ends. Time
passes only while nobody can run, and then to the next alarm.
-/

namespace TunnelKeeper

abbrev TaskId := Nat

/-- The tasks and the points that they have reached, those that reached theirs first in front; the
tasks that have been woken; and the time in milliseconds. -/
structure Schedule (P : Type) where
  now : Nat := 0
  tasks : List (TaskId × P) := []
  queue : List TaskId := []
  next : TaskId := 0

namespace Schedule

variable {P : Type}

/-- The point that a task has reached. -/
def point? (s : Schedule P) (t : TaskId) : Option P := s.tasks.lookup t

/-- Puts a task at the end of the queue, unless it stands there already. -/
def wake (s : Schedule P) (t : TaskId) : Schedule P :=
  if t ∈ s.queue then s else { s with queue := s.queue ++ [t] }

/-- A new task, which may run at once. -/
def spawn (s : Schedule P) (p : P) : Schedule P :=
  { s with tasks := s.tasks ++ [(s.next, p)], queue := s.queue ++ [s.next], next := s.next + 1 }

def removeTask (s : Schedule P) (t : TaskId) : Schedule P :=
  { s with tasks := s.tasks.filter fun (u, _) => u ≠ t, queue := s.queue.filter (· ≠ t) }

/-- A task has reached another point. -/
def moveTask (s : Schedule P) (t : TaskId) (p : P) : Schedule P :=
  { s with tasks := s.tasks.filter (fun (u, _) => u ≠ t) ++ [(t, p)] }

def dequeue (s : Schedule P) (t : TaskId) : Schedule P :=
  { s with queue := s.queue.filter (· ≠ t) }

/-- Wakes all tasks with a property. -/
def wakeWhere (s : Schedule P) (q : P → Bool) : Schedule P :=
  (s.tasks.filter fun (_, p) => q p).foldl (fun s (t, _) => s.wake t) s

/-- The time of the next alarm after now. -/
def nextAlarm? (s : Schedule P) (alarm : P → Option Nat) : Option Nat :=
  ((s.tasks.filterMap fun (_, p) => alarm p).filter (s.now < ·)).min?

/-- Time passes until `t`. It never goes back. -/
def passTo (s : Schedule P) (t : Nat) : Schedule P := { s with now := Nat.max s.now t }

/-- Time passes until `t`, and tasks with an alarm at `t` wake. -/
def wakeAt (s : Schedule P) (alarm : P → Option Nat) (t : Nat) : Schedule P :=
  (s.passTo t).wakeWhere fun p => alarm p = some t

theorem wake_eq (s : Schedule P) (t : TaskId) : s.wake t = { s with queue := (s.wake t).queue } := by
  unfold wake
  split <;> rfl

/-- Waking tasks only changes the queue. -/
theorem wakeWhere_eq (s : Schedule P) (q : P → Bool) :
    s.wakeWhere q = { s with queue := (s.wakeWhere q).queue } := by
  unfold wakeWhere
  generalize s.tasks.filter (fun (_, p) => q p) = woken
  induction woken generalizing s with
  | nil => rfl
  | cons head rest ih =>
    have step := ih (s.wake head.1)
    rw [List.foldl_cons, step, wake_eq s head.1]

end Schedule

/-- A world whose tasks take turns. -/
class Cooperative (W : Type) (P : outParam Type) where
  schedule : W → Schedule P
  withSchedule : W → Schedule P → W
  /-- The task need not wait any longer at its point. -/
  ready : W → TaskId → P → Bool
  /-- The time at which a task at this point wakes, whatever else happens. -/
  alarm : W → P → Option Nat
  /-- Goes on from a point to the next one, or to the end. -/
  resume : TaskId → P → W → W × Option P
  /-- The task has ended. -/
  finish : TaskId → W → W
  /-- What happens when nobody can run, before time passes. -/
  settle : W → Option W

namespace Cooperative

variable {W P : Type} [Cooperative W P]

def mapSchedule (f : Schedule P → Schedule P) (w : W) : W := withSchedule w (f (schedule w))

/-- A task goes on from its point to the next. -/
def advance (t : TaskId) (p : P) (w : W) : W :=
  match resume t p w with
  | (w, some p) => mapSchedule (·.moveTask t p) w
  | (w, none) => finish t (mapSchedule (·.removeTask t) w)

/-- Runs a task while it is ready, for at most so many points. -/
def poll : Nat → TaskId → W → W
  | 0, _, w => w
  | points + 1, t, w =>
    match (schedule w).point? t with
    | none => w
    | some p => if ready w t p then poll points t (advance t p w) else w

/-- Runs until nobody can run, for at most so many turns of so many points each. -/
def drain (points : Nat) : Nat → W → W
  | 0, w => w
  | turns + 1, w =>
    match (schedule w).queue with
    | t :: _ => drain points turns (poll points t (mapSchedule (·.dequeue t) w))
    | [] =>
      match settle w with
      | some w => drain points turns w
      | none => w

/-- Runs, and lets time pass up to `target`, for at most so many alarms. -/
def passTime (points turns : Nat) : Nat → Nat → W → W
  | 0, target, w => mapSchedule (·.passTo target) w
  | alarms + 1, target, w =>
    let w := drain points turns w
    match (schedule w).nextAlarm? (alarm w) with
    | some t =>
      if t ≤ target then passTime points turns alarms target (mapSchedule (·.wakeAt (alarm w) t) w)
      else mapSchedule (·.passTo target) w
    | none => mapSchedule (·.passTo target) w

/-- How long anything may run. No program that ever waits gets there. -/
def patience : Nat := 1000000

def settleDown (w : W) : W := drain patience patience w

/-- Lets so many milliseconds pass. -/
def elapse (ms : Nat) (w : W) : W :=
  passTime patience patience patience ((schedule w).now + ms) w

end Cooperative

/-- The milliseconds until a timer of the given length fires. A timer longer than the clock can
count is set for thirty years. -/
def Duration.timerMillis (d : Duration) : Nat :=
  if Nat.pow 2 63 - 1 ≤ d.secs.toNat then 946080000000 else d.ceilMillis

end TunnelKeeper
