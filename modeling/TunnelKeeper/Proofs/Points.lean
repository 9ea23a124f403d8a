import TunnelKeeper.Proofs.Footprints

/-!
Points of others. In its turn a task moves nobody but itself: all others are where they were, and
tasks that are new have only just begun. So a task waits at its point until its own turn, unless it
is a caller that gives up.
-/

namespace TunnelKeeper.Coordinator

open World Cooperative

variable {t : TaskId} {w : World}

/-! ### Tasks -/

namespace Task

/-- A task that is there after its turn has come to a point at which its program waits. -/
lemma exists_wait_of_report {P R : Type} {entry : Nat} {point : P → Task} {result : R → Result}
    {turn : Turn P R} {next : Task} (came : (report entry point result turn).2 = some next) :
    ∃ p, turn.2 = .wait p ∧ next = point p ∧ (report entry point result turn).1 = turn.1 := by
  obtain ⟨v, p | _ | _⟩ := turn
  · exact ⟨p, rfl, (Option.some.inj came).symm, rfl⟩
  · cases came
  · cases came

lemma exists_wait_of_goOn {P R : Type} {point : P → Task} {turn : Turn P R} {next : Task}
    (came : (goOn point turn).2 = some next) : ∃ p, turn.2 = .wait p ∧ next = point p := by
  obtain ⟨v, p | _ | _⟩ := turn
  · exact ⟨p, rfl, (Option.some.inj came).symm⟩
  · cases came
  · cases came

end Task

/-! ### Moves -/

/-- Only callers for a token may give up. -/
def Task.mayGiveUp : Task → Bool
  | refresh _ _ _ => true
  | lookUp _ _ => true
  | _ => false

namespace World

lemma tasks_wakeOption (w : World) (t : Option TaskId) :
    (w.wakeOption t).schedule.tasks = w.schedule.tasks := by
  rw [wakeOption_eq]

lemma tasks_setConnected (w : World) (n : TunnelId) (connected : Bool) :
    (w.setConnected n connected).schedule.tasks = w.schedule.tasks := by
  unfold setConnected
  rw [Schedule.wakeWhere_eq]

lemma tasks_leaveTokenLock (w : World) (c : CycleId) (t : TaskId) :
    (w.leaveTokenLock c t).schedule.tasks = w.schedule.tasks := tasks_wakeOption _ _

lemma point?_advance_of_ne {u : TaskId} (other : u ≠ t) (task : Task) :
    (advance t task w).schedule.point? u = (Task.resume t task w).1.schedule.point? u := by
  unfold advance
  rw [show Cooperative.resume t task w = Task.resume t task w from rfl]
  rcases Task.resume t task w with ⟨v, _ | next⟩
  · exact (Schedule.point?_removeTask ..).trans (if_neg other)
  · exact (Schedule.point?_moveTask ..).trans (if_neg other)

end World

namespace Move

variable {m : Move} {w' : World} {task : Task}

/-- Somebody comes when they are spawned or asked for, and goes when they are over or give up. -/
lemma tasks_eq (move : m.outcome? w = some w') (turn : ∀ t, m ≠ .turn t)
    (ask : ∀ operation, m ≠ .ask operation) (giveUp : ∀ t, m ≠ .giveUp t) :
    w'.schedule.tasks = w.schedule.tasks := by
  cases m with
  | turn t => exact absurd rfl (turn t)
  | ask operation => exact absurd rfl (ask operation)
  | giveUp t => exact absurd rfl (giveUp t)
  | drop n =>
    obtain rfl := Option.some.inj move
    exact w.tasks_setConnected _ false
  | build =>
    rw [outcome?, finishBuild?] at move
    split at move
    · cases move
    · next t rest _ =>
      obtain rfl := Option.some.inj move
      exact tasks_wakeOption { w with builds := rest } (some t)
  | time now =>
    obtain ⟨-, move⟩ := Option.ite_none_right_eq_some.1 move
    obtain rfl := Option.some.inj move
    rfl
  | line | answers | clock | host =>
    obtain rfl := Option.some.inj move
    rfl

lemma point?_giveUp (move : (giveUp t).outcome? w = some w') :
    (∃ task, w.schedule.point? t = some task ∧ task.mayGiveUp = true) ∧
      ∀ u, w'.schedule.point? u = if u = t then none else w.schedule.point? u := by
  have left (c : CycleId) (u : TaskId) :
      ({ w with schedule := w.schedule.removeTask t }.leaveTokenLock c t : World).schedule.point? u =
        if u = t then none else w.schedule.point? u := by
    rw [← Schedule.point?_removeTask]
    exact congrArg (List.lookup u) (tasks_leaveTokenLock _ c t)
  unfold outcome? giveUp? at move
  dsimp only at move
  split at move
  · next c p here => exact ⟨⟨_, here, rfl⟩, Option.some.inj move ▸ left c⟩
  · next c here => exact ⟨⟨_, here, rfl⟩, Option.some.inj move ▸ left c⟩
  · cases move

/-- Until its own turn, a task that cannot give up waits where it is. -/
theorem point?_kept {u : TaskId} (move : m.outcome? w = some w')
    (here : w.schedule.point? u = some task) (other : m ≠ .turn u)
    (stays : task.mayGiveUp = false) : w'.schedule.point? u = some task := by
  have spawned (new : Task) : (w.schedule.spawn new).point? u = some task := by
    rw [Schedule.point?_spawn, here, Option.some_or]
  by_cases turn : ∃ t, m = .turn t
  · obtain ⟨t, rfl⟩ := turn
    obtain ⟨task', -, -, rfl⟩ := exists_of_turn move
    have elsewhere : u ≠ t := fun same => other (congrArg _ same.symm)
    rw [World.point?_advance_of_ne elsewhere]
    rcases Task.touches_resume t w task' with touches | ⟨entry, -, started⟩
    · exact touches.grows.point? here
    · rw [started]
      exact spawned _
  by_cases ask : ∃ operation, m = .ask operation
  · obtain ⟨operation, rfl⟩ := ask
    obtain rfl := Option.some.inj move
    exact spawned _
  by_cases giveUp : ∃ t, m = .giveUp t
  · obtain ⟨t, rfl⟩ := giveUp
    obtain ⟨⟨task', here', may⟩, after⟩ := point?_giveUp move
    have elsewhere : u ≠ t := by
      rintro rfl
      cases here.symm.trans here'
      cases stays.symm.trans may
    rw [after, if_neg elsewhere, here]
  have same := tasks_eq move (not_exists.1 turn) (not_exists.1 ask) (not_exists.1 giveUp)
  unfold Schedule.point?
  rw [same]
  exact here

/-- Whoever is somewhere was there before, or has come there in its turn, or has just begun. -/
theorem point?_before {u : TaskId} (move : m.outcome? w = some w')
    (there : w'.schedule.point? u = some task) : w.schedule.point? u = some task ∨ m = .turn u ∨
      task.isNew = true ∨ (∃ entry operation, m = .ask operation ∧ task = .asked entry operation) ∨
      ∃ t entry, w.schedule.point? t = some (.asked entry .start) ∧ task = .startLoad := by
  have spawned {new : Task} (there : (w.schedule.spawn new).point? u = some task) :
      w.schedule.point? u = some task ∨ task = new := by
    rw [Schedule.point?_spawn] at there
    rcases Option.or_eq_some_iff.1 there with before | ⟨-, came⟩
    · exact .inl before
    · exact .inr (Option.some.inj (Option.ite_none_right_eq_some.1 came).2).symm
  by_cases turn : ∃ t, m = .turn t
  · obtain ⟨t, rfl⟩ := turn
    obtain ⟨task', here, -, rfl⟩ := exists_of_turn move
    by_cases mine : u = t
    · exact .inr (.inl (congrArg _ mine.symm))
    · rw [World.point?_advance_of_ne mine] at there
      rcases Task.touches_resume t w task' with touches | ⟨entry, rfl, started⟩
      · exact (touches.grows.point?_cases there).imp_right fun new => .inr (.inl new)
      · rw [started] at there
        exact (spawned there).imp_right fun new => .inr (.inr (.inr ⟨t, entry, here, new⟩))
  by_cases ask : ∃ operation, m = .ask operation
  · obtain ⟨operation, rfl⟩ := ask
    obtain rfl := Option.some.inj move
    exact (spawned there).imp_right fun new =>
      .inr (.inr (.inl ⟨w.nextEntry, operation, rfl, new⟩))
  by_cases giveUp : ∃ t, m = .giveUp t
  · obtain ⟨t, rfl⟩ := giveUp
    rw [(point?_giveUp move).2] at there
    exact .inl (Option.ite_none_left_eq_some.1 there).2
  have same := tasks_eq move (not_exists.1 turn) (not_exists.1 ask) (not_exists.1 giveUp)
  unfold Schedule.point? at there
  rw [same] at there
  exact .inl there

end Move

end TunnelKeeper.Coordinator
