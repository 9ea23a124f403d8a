import TunnelKeeper.Schedule.Basic

/-!
A slot that holds at most one background task. A task is cancelled by a token that it may heed or
not; the slot is empty from then on, and the end of a cancelled task leaves a later one alone.
-/

namespace TunnelKeeper

/-- The task in the slot, and the tasks whose tokens were cancelled. -/
structure TaskSlot where
  occupant : Option TaskId := none
  cancelled : List TaskId := []
  deriving DecidableEq, Repr

namespace TaskSlot

def isRunning (s : TaskSlot) : Bool := s.occupant.isSome

/-- The token of a task was cancelled. -/
def isCancelled (s : TaskSlot) (t : TaskId) : Bool := t ∈ s.cancelled

/-- Puts a task into the slot, which must be empty. -/
def occupy (s : TaskSlot) (t : TaskId) : TaskSlot := { s with occupant := some t }

/-- Cancels the occupant and empties the slot. -/
def cancel (s : TaskSlot) : TaskSlot :=
  match s.occupant with
  | none => s
  | some t => ⟨none, t :: s.cancelled⟩

/-- A task has ended: the slot is empty if it was the occupant. -/
def finish (s : TaskSlot) (t : TaskId) : TaskSlot :=
  if s.occupant = some t then { s with occupant := none } else s

theorem isRunning_cancel (s : TaskSlot) : s.cancel.isRunning = false := by
  unfold cancel isRunning
  cases h : s.occupant <;> simp [h]

end TaskSlot

end TunnelKeeper
