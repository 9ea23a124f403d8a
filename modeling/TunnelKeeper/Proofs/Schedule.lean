import TunnelKeeper.Schedule.Lock
import TunnelKeeper.Schedule.TaskSlot
import Mathlib.Logic.Function.Basic

/-!
The point of a task, as far as other tasks come, go on and end: a schedule is a partial map from
tasks to points, whatever the order in which it keeps them. Who holds a lock holds it until they give
it back, and who is in a slot is there until they are cancelled or end.
-/

namespace TunnelKeeper

namespace Schedule

variable {P : Type}

/-! ### Entries -/

lemma lookup_cons_eq_ite (t u : TaskId) (p : P) (tasks : List (TaskId × P)) :
    ((t, p) :: tasks).lookup u = if u = t then some p else tasks.lookup u := by
  rw [List.lookup_cons]
  by_cases h : u = t
  · simp [h]
  · rw [beq_false_of_ne h, if_neg h]

lemma lookup_filter_ne (tasks : List (TaskId × P)) (t u : TaskId) :
    (tasks.filter fun (v, _) => v ≠ t).lookup u = if u = t then none else tasks.lookup u := by
  induction tasks with
  | nil => simp
  | cons head rest ih =>
    obtain ⟨v, p⟩ := head
    by_cases hv : v = t
    · rw [List.filter_cons_of_neg (by simp [hv]), ih, lookup_cons_eq_ite]
      by_cases hu : u = t <;> simp [hu, hv]
    · rw [List.filter_cons_of_pos (by simp [hv]), lookup_cons_eq_ite, ih, lookup_cons_eq_ite]
      by_cases hu : u = t <;> simp [hu, Ne.symm hv]

/-! ### Points -/

section Points

variable (s : Schedule P)

/-- A task that is new has the point it was spawned at, unless somebody has its number. -/
lemma point?_spawn (p : P) (u : TaskId) :
    (s.spawn p).point? u = (s.point? u).or (if u = s.next then some p else none) := by
  unfold point? spawn
  rw [List.lookup_append, lookup_cons_eq_ite, List.lookup_nil]

lemma point?_moveTask (t : TaskId) (p : P) (u : TaskId) :
    (s.moveTask t p).point? u = if u = t then some p else s.point? u := by
  unfold point? moveTask
  rw [List.lookup_append, lookup_filter_ne, lookup_cons_eq_ite]
  by_cases h : u = t <;> simp [h]

lemma point?_removeTask (t u : TaskId) :
    (s.removeTask t).point? u = if u = t then none else s.point? u :=
  lookup_filter_ne s.tasks t u

@[simp]
lemma next_wake (t : TaskId) : (s.wake t).next = s.next := by
  rw [wake_eq]

@[simp]
lemma next_wakeWhere (q : P → Bool) : (s.wakeWhere q).next = s.next := by
  rw [wakeWhere_eq]

lemma now_wakeWhere (q : P → Bool) : (s.wakeWhere q).now = s.now := by
  rw [wakeWhere_eq]

lemma mem_of_point? {s : Schedule P} {t : TaskId} {p : P} (here : s.point? t = some p) :
    (t, p) ∈ s.tasks := by
  obtain ⟨before, after, tasks, -⟩ := List.lookup_eq_some_iff.1 here
  rw [tasks]
  exact List.mem_append_right _ List.mem_cons_self

end Points

end Schedule

/-! ### Locks -/

namespace Lock

variable {l : Lock} {t u : TaskId}

lemma holder_enter (held : l.holder = some u) (t : TaskId) : (l.enter t).holder = some u := by
  rw [enter, held]

lemma holder_leave_of_ne (held : l.holder = some u) (other : u ≠ t) :
    (l.leave t).1.holder = some u := by
  rw [leave, held, if_neg (by simpa using other)]

/-- Who holds a lock and who waits for it, the holder in front. -/
def users (l : Lock) : List TaskId := l.holder.toList ++ l.waiters

lemma mem_users : u ∈ l.users ↔ l.holder = some u ∨ u ∈ l.waiters := by
  rw [users, List.mem_append, Option.mem_toList]

lemma users_enter (l : Lock) (t : TaskId) : (l.enter t).users.Perm (t :: l.users) := by
  unfold enter users
  cases held : l.holder with
  | none => exact .refl _
  | some u => exact List.perm_append_singleton t (u :: l.waiters)

lemma users_leave (once : l.users.Nodup) (t : TaskId) :
    (l.leave t).1.users = l.users.filter (· ≠ t) := by
  obtain ⟨holder, waiters⟩ := l
  have without {us : List TaskId} (absent : t ∉ us) : us.filter (· ≠ t) = us :=
    List.filter_eq_self.2 fun u there => decide_eq_true fun same => absent (same ▸ there)
  cases holder with
  | none => rfl
  | some u =>
    by_cases mine : u = t
    · subst mine
      obtain ⟨absent, -⟩ := List.nodup_cons.1 (show (u :: waiters).Nodup from once)
      have after : (leave ⟨some u, waiters⟩ u).1.users = waiters := by
        unfold leave
        rw [if_pos rfl]
        cases waiters <;> rfl
      rw [after, show users ⟨some u, waiters⟩ = u :: waiters from rfl,
        List.filter_cons_of_neg (by simp), without absent]
    · unfold leave
      rw [if_neg (by simpa using mine), show users ⟨some u, waiters⟩ = u :: waiters from rfl,
        List.filter_cons_of_pos (by simpa using mine)]
      rfl

end Lock

/-! ### Slots -/

namespace TaskSlot

lemma occupant_cancel (slot : TaskSlot) : slot.cancel.occupant = none :=
  Option.not_isSome_iff_eq_none.1 (Bool.eq_false_iff.1 slot.isRunning_cancel)

lemma cancelled_cancel {slot : TaskSlot} {t : TaskId} (there : slot.occupant = some t) :
    t ∈ slot.cancel.cancelled := by
  rw [cancel, there]
  exact List.mem_cons_self

lemma isCancelled_cancel (slot : TaskSlot) (t : TaskId) :
    slot.cancel.isCancelled t ↔ slot.isCancelled t ∨ slot.occupant = some t := by
  unfold cancel isCancelled
  cases slot.occupant with
  | none => simp
  | some u =>
    simp only [decide_eq_true_eq, List.mem_cons, Option.some.injEq]
    rw [or_comm]
    exact or_congr_right eq_comm

lemma cancelled_subset_cancel (slot : TaskSlot) : slot.cancelled ⊆ slot.cancel.cancelled := by
  unfold cancel
  split
  · exact List.Subset.refl _
  · exact List.subset_cons_self ..

lemma occupant_of_finish {slot : TaskSlot} {t u : TaskId}
    (there : (slot.finish t).occupant = some u) : slot.occupant = some u := by
  unfold finish at there
  split at there
  · cases there
  · exact there

lemma occupant_finish (slot : TaskSlot) (t : TaskId) : (slot.finish t).occupant ≠ some t := by
  unfold finish
  split
  · nofun
  · next other => exact other

lemma cancelled_finish (slot : TaskSlot) (t : TaskId) :
    (slot.finish t).cancelled = slot.cancelled := by
  unfold finish
  split <;> rfl

lemma finish_of_ne {slot : TaskSlot} {t : TaskId} (other : slot.occupant ≠ some t) :
    slot.finish t = slot := if_neg other

end TaskSlot

end TunnelKeeper
