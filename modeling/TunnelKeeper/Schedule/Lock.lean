import TunnelKeeper.Schedule.Basic

/-!
Locks that are handed over: a task that gives a lock back gives it to the one that has waited
longest.
-/

namespace TunnelKeeper

structure Lock where
  holder : Option TaskId := none
  /-- The tasks that wait, the one that came first in front. -/
  waiters : List TaskId := []
  deriving DecidableEq, Repr

namespace Lock

def IsHeld (l : Lock) : Prop := l.holder ≠ none

instance (l : Lock) : Decidable l.IsHeld := inferInstanceAs (Decidable (l.holder ≠ none))

/-- Takes the lock, or waits for it. -/
def enter (l : Lock) (t : TaskId) : Lock :=
  match l.holder with
  | none => { l with holder := some t }
  | some _ => { l with waiters := l.waiters ++ [t] }

/-- Gives the lock back, or stops waiting for it. The lock goes to the first waiter, which wakes. -/
def leave (l : Lock) (t : TaskId) : Lock × Option TaskId :=
  if l.holder = some t then
    match l.waiters with
    | [] => ({ l with holder := none }, none)
    | u :: rest => (⟨some u, rest⟩, some u)
  else ({ l with waiters := l.waiters.filter (· ≠ t) }, none)

end Lock

end TunnelKeeper
