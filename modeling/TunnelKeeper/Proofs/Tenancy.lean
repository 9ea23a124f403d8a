import TunnelKeeper.Proofs.Schedule
import TunnelKeeper.Schedule.Probe

/-!
Who is in a slot, over all that may happen to it and to its tasks: tasks are asked for, the occupant
is cancelled, the slot is dropped, and tasks go on or end whenever they like, also long after they
were cancelled. The slot always holds the last task that was spawned, as long as that task is alive
and nobody has cancelled it, and no other task is alive with a token that is not cancelled.
-/

namespace TunnelKeeper.Probe

open Cooperative

/-! ### What may happen -/

/-- What may happen to the slot and to its tasks. -/
inductive Incident where
  /-- A task is asked for. -/
  | spawn (label : Int) (kind : Kind)
  | cancel
  /-- The slot is dropped, and another takes its place. -/
  | replace
  | release (label : Int)
  /-- A task goes on, if it need not wait. -/
  | turn (t : TaskId)
  /-- A task ends, whatever it was about: it fails, or whoever runs it drops it. -/
  | vanish (t : TaskId)
  /-- The tasks that have been woken stand in another order. -/
  | line (queue : List TaskId)
  /-- Time passes. -/
  | time (now : Nat)

namespace World

variable (w : World)

/-- A task that has not ended. -/
def IsAlive (t : TaskId) : Prop := (w.schedule.point? t).isSome

/-- The labels of the tasks that have been built, the latest first. -/
def makes : List Int :=
  w.log.filterMap fun (_, e) => match e with
    | .make label => some label
    | _ => none

/-- The end of a task. -/
def vanish (t : TaskId) : World := finish t (mapSchedule (·.removeTask t) w)

def turn (t : TaskId) : World :=
  match w.schedule.point? t with
  | none => w
  | some p => if w.ready t p then advance t p w else w

end World

/-- The world after something has happened. -/
def Incident.apply (w : World) : Incident → World
  | spawn label kind => (w.spawnIfIdle label kind).2
  | cancel => w.cancel.2
  | replace => w.cancel.2
  | release label => (w.release label).2
  | turn t => w.turn t
  | vanish t => w.vanish t
  | line queue => { w with schedule := { w.schedule with queue := queue } }
  | time now => { w with schedule := { w.schedule with now := now } }

/-- The slot gives its occupant up. -/
def Incident.Evicts : Incident → Prop
  | cancel => True
  | replace => True
  | _ => False

/-- The world after all that has happened. -/
def World.after (w : World) : List Incident → World
  | [] => w
  | i :: rest => (i.apply w).after rest

/-! ### What it does to the slot -/

/-- What may become of the slot and its tasks; `evicts` says whether the slot gives its occupant up
in it. -/
inductive Step (evicts : Prop) (w w' : World) : Prop where
  | same (stays : ¬ evicts) (slot : w'.slot = w.slot) (alive : ∀ u, w'.IsAlive u ↔ w.IsAlive u)
      (next : w'.schedule.next = w.schedule.next)
  /-- A new task takes the slot. -/
  | spawned (stays : ¬ evicts) (empty : w.slot.occupant = none)
      (slot : w'.slot = w.slot.occupy w.schedule.next)
      (alive : ∀ u, w'.IsAlive u ↔ w.IsAlive u ∨ u = w.schedule.next)
      (next : w'.schedule.next = w.schedule.next + 1)
  | cancelled (evicted : evicts) (slot : w'.slot = w.slot.cancel)
      (alive : ∀ u, w'.IsAlive u ↔ w.IsAlive u) (next : w'.schedule.next = w.schedule.next)
  | ended (stays : ¬ evicts) (t : TaskId) (slot : w'.slot = w.slot.finish t)
      (alive : ∀ u, w'.IsAlive u ↔ w.IsAlive u ∧ u ≠ t)
      (next : w'.schedule.next = w.schedule.next)

namespace Step

variable {evicts : Prop} (stays : ¬ evicts) (w : World)
include stays

lemma refl (log : List (Nat × Entry)) : Step evicts w { w with log := log } :=
  .same stays rfl (fun _ => .rfl) rfl

lemma vanish (t : TaskId) (log : List (Nat × Entry)) :
    Step evicts w ({ w with log := log }.vanish t) := by
  refine .ended stays t rfl (fun u => ?_) rfl
  have point : ({ w with log := log }.vanish t).schedule.point? u =
      if u = t then none else w.schedule.point? u :=
    Schedule.point?_removeTask w.schedule t u
  unfold World.IsAlive
  rw [point]
  by_cases same : u = t <;> simp [same]

lemma moveTask {t : TaskId} (alive : w.IsAlive t) (p : Point) (log : List (Nat × Entry)) :
    Step evicts w { w with log := log, schedule := w.schedule.moveTask t p } := by
  refine .same stays rfl (fun u => ?_) rfl
  unfold World.IsAlive
  rw [Schedule.point?_moveTask]
  by_cases same : u = t
  · rw [if_pos same, same]
    exact iff_of_true rfl alive
  · rw [if_neg same]

end Step

namespace World

variable (w : World)

lemma spawnIfIdle_of_occupied {t : TaskId} (there : w.slot.occupant = some t) (label : Int)
    (kind : Kind) : w.spawnIfIdle label kind = (false, w) :=
  if_pos (by rw [TaskSlot.isRunning, there]; rfl)

lemma spawnIfIdle_of_empty (empty : w.slot.occupant = none) (label : Int) (kind : Kind) :
    w.spawnIfIdle label kind = (true, { w.record (.make label) with
      schedule := w.schedule.spawn { label := label, kind := kind }
      slot := w.slot.occupy w.schedule.next }) :=
  if_neg (by rw [TaskSlot.isRunning, empty]; simp)

lemma step_spawnIfIdle {evicts : Prop} (stays : ¬ evicts) (label : Int) (kind : Kind) :
    Step evicts w (w.spawnIfIdle label kind).2 := by
  cases empty : w.slot.occupant with
  | none =>
    rw [w.spawnIfIdle_of_empty empty]
    refine .spawned stays empty rfl (fun u => ?_) rfl
    simp only [IsAlive, Schedule.point?_spawn]
    by_cases new : u = w.schedule.next <;> simp [new]
  | some t =>
    rw [w.spawnIfIdle_of_occupied empty]
    exact .refl stays w _

lemma step_cancel {evicts : Prop} (evicted : evicts) : Step evicts w w.cancel.2 := by
  unfold World.cancel
  split
  · next empty =>
    have slot : w.slot = w.slot.cancel := by rw [TaskSlot.cancel, empty]
    exact .cancelled evicted slot (fun _ => .rfl) rfl
  · rw [Schedule.wake_eq]
    exact .cancelled evicted rfl (fun _ => .rfl) rfl

lemma step_release {evicts : Prop} (stays : ¬ evicts) (label : Int) :
    Step evicts w (w.release label).2 := by
  unfold World.release
  split
  · exact .refl stays w _
  · split
    · exact .refl stays w _
    · rw [Schedule.wake_eq]
      exact .same stays rfl (fun _ => .rfl) rfl

/-- A task that goes on starts, or ends like any other. -/
lemma step_turn {evicts : Prop} (stays : ¬ evicts) (t : TaskId) : Step evicts w (w.turn t) := by
  unfold World.turn
  split
  · exact .refl stays w _
  · next p here =>
    have alive : w.IsAlive t := by simp [IsAlive, here]
    split
    · unfold advance
      by_cases started : p.started
      · have ends : ∃ log, Cooperative.resume t p w = ({ w with log := log }, none) := by
          by_cases fails : p.kind = .fail
          · exact ⟨_, (if_pos started).trans (congrArg (·, none) (if_pos fails))⟩
          · exact ⟨_, (if_pos started).trans (congrArg (·, none) (if_neg fails))⟩
        obtain ⟨log, ends⟩ := ends
        rw [ends]
        exact .vanish stays w t log
      · have goes : ∃ log p', Cooperative.resume t p w = ({ w with log := log }, some p') :=
          ⟨_, _, if_neg started⟩
        obtain ⟨log, p', goes⟩ := goes
        rw [goes]
        exact .moveTask stays w alive p' log
    · exact .refl stays w _

/-- **What an incident can do.** -/
lemma step (i : Incident) : Step i.Evicts w (i.apply w) := by
  cases i with
  | spawn label kind => exact w.step_spawnIfIdle id label kind
  | cancel => exact w.step_cancel trivial
  | replace => exact w.step_cancel trivial
  | release label => exact w.step_release id label
  | turn t => exact w.step_turn id t
  | vanish t => exact .vanish id w t w.log
  | line queue => exact .same id rfl (fun _ => .rfl) rfl
  | time now => exact .same id rfl (fun _ => .rfl) rfl

end World

/-! ### Who is in the slot -/

/-- The slot holds the last task that was spawned, if it is alive and has not been cancelled, and
all other tasks that are alive have been cancelled. Tasks are numbered as they are spawned. -/
structure World.Tenanted (w : World) : Prop where
  fresh : ∀ t, w.IsAlive t → t < w.schedule.next
  fresh_token : ∀ t, w.slot.isCancelled t → t < w.schedule.next
  occupant : ∀ t, w.slot.occupant = some t →
    t + 1 = w.schedule.next ∧ w.IsAlive t ∧ ¬ w.slot.isCancelled t
  alone : ∀ t, w.IsAlive t → ¬ w.slot.isCancelled t → w.slot.occupant = some t

namespace World.Tenanted

variable {w w' : World}

theorem initial : ({} : World).Tenanted where
  fresh _ alive := by simp [IsAlive, Schedule.point?] at alive
  fresh_token _ told := by simp [TaskSlot.isCancelled] at told
  occupant _ there := nomatch there
  alone _ alive := by simp [IsAlive, Schedule.point?] at alive

lemma spawned (tenanted : w.Tenanted) (empty : w.slot.occupant = none)
    (slot : w'.slot = w.slot.occupy w.schedule.next)
    (alive : ∀ u, w'.IsAlive u ↔ w.IsAlive u ∨ u = w.schedule.next)
    (next : w'.schedule.next = w.schedule.next + 1) : w'.Tenanted := by
  have tokens : ∀ u, w'.slot.isCancelled u = w.slot.isCancelled u := fun u => by rw [slot]; rfl
  refine ⟨fun u lives => ?_, fun u told => ?_, fun u there => ?_, fun u lives uncancelled => ?_⟩
  · rw [next]
    rcases (alive u).1 lives with lives | rfl
    · exact Nat.lt_succ_of_lt (tenanted.fresh u lives)
    · exact Nat.lt_succ_self _
  · rw [next]
    exact Nat.lt_succ_of_lt (tenanted.fresh_token u (tokens u ▸ told))
  · rw [slot] at there
    obtain rfl : w.schedule.next = u := Option.some.inj there
    refine ⟨next.symm, (alive _).2 (.inr rfl), fun told => ?_⟩
    exact Nat.lt_irrefl _ (tenanted.fresh_token _ (tokens _ ▸ told))
  · rcases (alive u).1 lives with lives | rfl
    · -- the slot was empty, so all who were alive had been cancelled
      have there := tenanted.alone u lives (tokens u ▸ uncancelled)
      rw [empty] at there
      cases there
    · rw [slot]
      rfl

lemma cancelled (tenanted : w.Tenanted) (slot : w'.slot = w.slot.cancel)
    (alive : ∀ u, w'.IsAlive u ↔ w.IsAlive u)
    (next : w'.schedule.next = w.schedule.next) : w'.Tenanted := by
  have empty : w'.slot.occupant = none := by rw [slot, TaskSlot.occupant_cancel]
  refine ⟨fun u => ?_, fun u told => ?_, fun u there => ?_, fun u lives uncancelled => ?_⟩
  · rw [alive, next]
    exact tenanted.fresh u
  · rw [slot, TaskSlot.isCancelled_cancel] at told
    rw [next]
    rcases told with told | there
    · exact tenanted.fresh_token u told
    · exact tenanted.fresh u (tenanted.occupant u there).2.1
  · rw [empty] at there
    cases there
  · -- whoever was not cancelled before was the occupant, and is now
    rw [slot, TaskSlot.isCancelled_cancel, not_or] at uncancelled
    exact absurd (tenanted.alone u ((alive u).1 lives) uncancelled.1) uncancelled.2

lemma ended (tenanted : w.Tenanted) (t : TaskId) (slot : w'.slot = w.slot.finish t)
    (alive : ∀ u, w'.IsAlive u ↔ w.IsAlive u ∧ u ≠ t)
    (next : w'.schedule.next = w.schedule.next) : w'.Tenanted := by
  have tokens : ∀ u, w'.slot.isCancelled u = w.slot.isCancelled u := fun u => by
    rw [slot, TaskSlot.isCancelled, TaskSlot.cancelled_finish]
    rfl
  refine ⟨fun u lives => ?_, fun u told => ?_, fun u there => ?_, fun u lives uncancelled => ?_⟩
  · rw [next]
    exact tenanted.fresh u ((alive u).1 lives).1
  · rw [next]
    exact tenanted.fresh_token u (tokens u ▸ told)
  · rw [slot] at there
    obtain ⟨last, lives, uncancelled⟩ := tenanted.occupant u (TaskSlot.occupant_of_finish there)
    have other : u ≠ t := by
      rintro rfl
      exact TaskSlot.occupant_finish _ _ there
    rw [next, tokens]
    exact ⟨last, (alive u).2 ⟨lives, other⟩, uncancelled⟩
  · obtain ⟨lives, other⟩ := (alive u).1 lives
    have there := tenanted.alone u lives (tokens u ▸ uncancelled)
    rw [slot, TaskSlot.finish_of_ne fun same => other (Option.some.inj (there.symm.trans same))]
    exact there

lemma step (tenanted : w.Tenanted) {evicts : Prop} (step : Step evicts w w') : w'.Tenanted := by
  cases step with
  | same _ slot alive next =>
    refine ⟨fun u => ?_, fun u => ?_, fun u => ?_, fun u => ?_⟩
    · rw [alive, next]
      exact tenanted.fresh u
    · rw [slot, next]
      exact tenanted.fresh_token u
    · rw [slot, next, alive]
      exact tenanted.occupant u
    · rw [slot, alive]
      exact tenanted.alone u
  | spawned _ empty slot alive next => exact tenanted.spawned empty slot alive next
  | cancelled _ slot alive next => exact tenanted.cancelled slot alive next
  | ended _ t slot alive next => exact tenanted.ended t slot alive next

lemma after (tenanted : w.Tenanted) (incidents : List Incident) :
    (w.after incidents).Tenanted := by
  induction incidents generalizing w with
  | nil => exact tenanted
  | cons i rest ih => exact ih (tenanted.step (w.step i))

end World.Tenanted

namespace Step

variable {evicts : Prop} {w w' : World} (step : Step evicts w w')
include step

lemma isCancelled_iff (u : TaskId) :
    w'.slot.isCancelled u ↔ w.slot.isCancelled u ∨ evicts ∧ w.slot.occupant = some u := by
  cases step with
  | same stays slot _ _ => simp [slot, stays]
  | spawned stays _ slot _ _ => simp [slot, stays, TaskSlot.isCancelled, TaskSlot.occupy]
  | cancelled evicted slot _ _ => simp [slot, evicted, TaskSlot.isCancelled_cancel]
  | ended stays t slot _ _ =>
    simp [slot, stays, TaskSlot.isCancelled, TaskSlot.cancelled_finish]

/-- An occupant leaves the slot only if the slot gives it up, or it ends itself. -/
lemma occupant_stays {t : TaskId} (there : w.slot.occupant = some t) :
    w'.slot.occupant = some t ∨ evicts ∨ ¬ w'.IsAlive t := by
  cases step with
  | same _ slot _ _ => exact .inl (slot ▸ there)
  | spawned _ empty _ _ _ =>
    rw [there] at empty
    cases empty
  | cancelled evicted _ _ _ => exact .inr (.inl evicted)
  | ended _ u slot alive _ =>
    by_cases same : t = u
    · exact .inr (.inr fun lives => ((alive t).1 lives).2 same)
    · have other : w.slot.occupant ≠ some u :=
        fun eq => same (Option.some.inj (there.symm.trans eq))
      rw [slot, TaskSlot.finish_of_ne other]
      exact .inl there

end Step

/-- **A slot holds the last live task.** Whatever has happened: a task is built and spawned exactly
if the slot is empty; the occupant is the task that was spawned last, if it is alive and has not
been cancelled; any other task that is alive has been cancelled; only the occupant is ever cancelled,
and only when the slot gives it up; and an occupant leaves the slot in no other way, unless it ends
itself, so the end of an earlier task leaves the slot alone. -/
theorem slot_holds_last_live_task (incidents : List Incident) :
    let w := ({} : World).after incidents
    (∀ label kind,
      ((w.spawnIfIdle label kind).1 = true ↔ w.slot.occupant = none) ∧
      (w.slot.occupant = none → (w.spawnIfIdle label kind).2.makes = label :: w.makes ∧
        (w.spawnIfIdle label kind).2.slot.occupant = some w.schedule.next) ∧
      (w.slot.occupant ≠ none → (w.spawnIfIdle label kind).2 = w)) ∧
    (∀ t, w.slot.occupant = some t ↔
      t + 1 = w.schedule.next ∧ w.IsAlive t ∧ ¬ w.slot.isCancelled t) ∧
    (∀ t, w.IsAlive t → ¬ w.slot.isCancelled t → w.slot.occupant = some t) ∧
    (∀ (i : Incident) t, (i.apply w).slot.isCancelled t ↔
      w.slot.isCancelled t ∨ i.Evicts ∧ w.slot.occupant = some t) ∧
    ∀ (i : Incident) t, w.slot.occupant = some t →
      (i.apply w).slot.occupant = some t ∨ i.Evicts ∨ ¬ (i.apply w).IsAlive t := by
  intro w
  have tenanted : w.Tenanted := World.Tenanted.initial.after incidents
  refine ⟨fun label kind => ?_, fun t => ⟨tenanted.occupant t, ?_⟩, tenanted.alone,
    fun i => (w.step i).isCancelled_iff, fun i t there => (w.step i).occupant_stays there⟩
  · cases there : w.slot.occupant with
    | none =>
      rw [w.spawnIfIdle_of_empty there]
      exact ⟨by simp, fun _ => ⟨rfl, rfl⟩, fun occupied => absurd rfl occupied⟩
    | some t =>
      rw [w.spawnIfIdle_of_occupied there]
      simp
  · rintro ⟨-, alive, uncancelled⟩
    exact tenanted.alone t alive uncancelled

end TunnelKeeper.Probe
