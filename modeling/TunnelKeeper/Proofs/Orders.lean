import TunnelKeeper.Proofs.Dials
import TunnelKeeper.Proofs.Office
import TunnelKeeper.Proofs.Overlaps

/-!
For whom the collaborators work. Whatever a load, a setup or an attempt to connect orders, it orders
for the generation that is current, but for three points: setup does not look at its generation when
it begins, nor once the TLS context is built, and an attempt that has waited for its locks asks for a
token first.
-/

namespace TunnelKeeper.Coordinator

open World Cooperative

/-! ### Work and its generation -/

namespace Task.WorksFor

variable {task : Task} {g : Nat}

lemma of_load (works : task.WorksFor g) {p : LoadPoint} (job : task.job = .load p) :
    p.generation = g := by
  cases works with
  | load job' here => rwa [← Job.load.inj (job'.symm.trans job)]
  | setup => cases job
  | attempt job' => cases job'.symm.trans job
  | guard q => cases q <;> cases job

lemma of_setup {p : SetupPoint} (works : (Task.setup p).WorksFor g) : p.generation = g := by
  cases works with
  | setup here => exact here
  | load job => cases job
  | attempt job => cases job

lemma of_attempt {c : Outline} (back : Background c) {t : TaskId} (works : task.WorksFor g)
    {a : Attempt} (job : task.job = .attempt a) (own : c.owner t = some task.owner)
    (at_it : c.job t = task.job) : a.active.generation = g := by
  cases works with
  | attempt job' here => rwa [← Job.attempt.inj (job'.symm.trans job)]
  | setup => cases job
  | load job' => cases job'.symm.trans job
  | guard q => exact (back.attempt t _ a own (at_it.trans job)).2 g rfl

lemma isGuard_of_rest (works : task.WorksFor g) (rest : task.job = .rest) :
    task.owner.isGuard = true := by
  cases works with
  | guard q => rfl
  | load job => cases job.symm.trans rest
  | setup => cases rest
  | attempt job => cases job.symm.trans rest

end Task.WorksFor

lemma Task.exists_worksFor {task : Task} {w : World} (some : task.job.unchecked w ≠ []) :
    ∃ g, task.WorksFor g := by
  cases job : task.job with
  | setup p =>
    rw [eq_setup_of_job job]
    exact ⟨p.generation, .setup rfl⟩
  | attempt a => exact ⟨a.active.generation, .attempt job rfl⟩
  | _ =>
    rw [job] at some
    exact absurd rfl some

/-! ### Orders -/

namespace Chore

variable {w : World} {task : Task} {o : Office} {y : Job}

/-- Work for a generation orders what it does while that is current, but for what it orders without
looking. -/
lemma orders_of_work (chore : Chore w task o y) (back : Background w.outline) {t : TaskId}
    (here : w.schedule.point? t = some task) {g : Nat} (works : task.WorksFor g) :
    o.orders = w.orders ∨ w.state.IsCurrent g ∨ o.orders = task.job.unchecked w ++ w.orders := by
  cases chore with
  | apart | load | reset | issued => exact .inl rfl
  | enroll _ _ job current | wrong job _ current =>
    rw [← works.of_load job]
    exact .inr (.inl current)
  | unchecked => exact .inr (.inr rfl)
  | certified setup _ current =>
    subst setup
    rw [← works.of_setup]
    exact .inr (.inl current)
  | dial _ job current =>
    rw [← works.of_attempt back job (outline_owner here) (outline_job here)]
    exact .inr (.inl current)
  | ask caller =>
    subst caller
    cases works.isGuard_of_rest rfl
  | renew _ rest free => cases free.symm.trans (works.isGuard_of_rest rest)

/-- Besides work for a generation, callers ask for tokens, and a check renews the certificate of the
backend that is ready. -/
lemma orders_cases (chore : Chore w task o y) :
    o.orders = w.orders ∨ (∃ g, task.WorksFor g) ∨
      (∃ entry r, task = .refresh entry r .lock ∧ o.orders = .token w.keys :: w.orders) ∨
      ∃ a, w.state.active? = some a ∧
        o.orders = .issueCertificate (w.domain a.registration) :: w.orders := by
  cases chore with
  | apart | load | reset | issued => exact .inl rfl
  | enroll _ _ job | wrong job => exact .inr (.inl ⟨_, .load job rfl⟩)
  | unchecked =>
    by_cases none : task.job.unchecked w = []
    · left
      dsimp only
      rw [none, List.nil_append]
    · exact .inr (.inl (Task.exists_worksFor none))
  | certified setup =>
    subst setup
    exact .inr (.inl ⟨_, .setup rfl⟩)
  | dial _ job => exact .inr (.inl ⟨_, .attempt job rfl⟩)
  | ask caller => exact .inr (.inr (.inl ⟨_, _, caller, rfl⟩))
  | renew ready => exact .inr (.inr (.inr ⟨_, ready, rfl⟩))

end Chore

/-- **Work is ordered for the current generation, but for three points.** A load, a setup or an
attempt to connect that orders anything does so while its generation is current, or it is at a point
where it does not look; then it orders what `Job.unchecked` says, and nothing else. Nobody else orders
anything, but for the callers that ask for a token of their own and the check that renews the
certificate of the backend that is ready. -/
theorem work_is_ordered_for_current {s : Setting} {moves : List Move} {w : World}
    (run : s.world.after? moves = some w) :
    (∀ t task g w', w.schedule.point? t = some task → task.WorksFor g →
        (Move.turn t).outcome? w = some w' → w'.orders = w.orders ∨ w.state.IsCurrent g ∨
          w'.orders = task.job.unchecked w ++ w.orders) ∧
      ∀ (m : Move) (w' : World), m.outcome? w = some w' → w'.orders = w.orders ∨
        ∃ t task, m = .turn t ∧ w.schedule.point? t = some task ∧ ((∃ g, task.WorksFor g) ∨
          (∃ entry r, task = .refresh entry r .lock ∧ w'.orders = .token w.keys :: w.orders) ∨
          ∃ a, w.state.active? = some a ∧
            w'.orders = .issueCertificate (w.domain a.registration) :: w.orders) := by
  have back : Background w.outline := Reaches.background ⟨moves, run⟩
  refine ⟨fun t task g w' here works turn => ?_, fun m w' move => ?_⟩
  · rcases Move.chore turn with ⟨u, task', same, here', chore⟩ | ⟨other, -⟩
    · cases same
      cases here.symm.trans here'
      exact chore.orders_of_work back here works
    · exact absurd rfl (other t)
  · rcases Move.chore move with ⟨t, task, rfl, here, chore⟩ | ⟨-, same⟩
    · exact chore.orders_cases.imp_right fun cases => ⟨t, task, rfl, here, cases⟩
    · exact .inl (congrArg Office.orders same)

/-- The first backend is connected while it is current. -/
theorem firstBackend_is_current_when_dialled : ∃ (w w' : World) (task : Task),
    ({} : Setting).world.after? firstBackend.dropLast.dropLast = some w ∧
      w.schedule.point? 3 = some task ∧ task.WorksFor 1 ∧
      (Move.turn 3).outcome? w = some w' ∧ w'.orders ≠ w.orders ∧ w.state.IsCurrent 1 := by
  have seen : (({} : Setting).world.after? firstBackend.dropLast.dropLast).bind (fun w =>
      ((Move.turn 3).outcome? w).bind fun w' => (w.schedule.point? 3).map fun task =>
        (w.orders.length, w'.orders.length, (task.job.unchecked w).length,
          task.attempt?.map (·.active.generation))) = some (7, 8, 0, some 1) := rfl
  obtain ⟨w, run, seen⟩ := Option.bind_eq_some_iff.1 seen
  obtain ⟨w', turn, seen⟩ := Option.bind_eq_some_iff.1 seen
  obtain ⟨task, here, seen⟩ := Option.map_eq_some_iff.1 seen
  simp only [Prod.mk.injEq] at seen
  obtain ⟨before, after, looks, works⟩ := seen
  obtain ⟨a, mine, generation⟩ := Option.map_eq_some_iff.1 works
  have works : task.WorksFor 1 := .attempt (Task.job_of_attempt? mine) generation
  have more : w'.orders ≠ w.orders := fun same => by
    rw [same, before] at after
    cases after
  refine ⟨w, w', task, run, here, works, turn, more, ?_⟩
  rcases (work_is_ordered_for_current run).1 3 task 1 w' here works turn with
    same | current | unchecked
  · exact absurd same more
  · exact current
  · rw [List.eq_nil_of_length_eq_zero looks] at unchecked
    exact absurd unchecked more

/-- A load is closed while its certificate files are hardened, and that takes its time. -/
def closedWhileHardening : List Move :=
  [.ask .load, .turn 0, .turn 1, .turn 0, .turn 0, .turn 2, .turn 2, .ask .close, .turn 3, .turn 1,
    .time 1000, .turn 2, .build]

/-- Then its setup still has a tunnel created and started, though its generation is past. -/
theorem closed_setup_orders_tunnel : ∃ (w w' : World) (p : SetupPoint),
    Setting.slowHarden.world.after? closedWhileHardening = some w ∧
      w.schedule.point? 2 = some (.setup p) ∧ (Task.setup p).WorksFor 1 ∧
      ¬ w.state.IsCurrent 1 ∧ (Move.turn 2).outcome? w = some w' ∧
      w'.orders = .startTunnel 0 :: .createTunnel 0 ⟨"relay1", 443⟩ :: w.orders := by
  have seen : (Setting.slowHarden.world.after? closedWhileHardening).bind (fun w =>
      ((Move.turn 2).outcome? w).map fun w' =>
        (w.state.generation, w.outline.job 2, w.orders, w'.orders)) =
      some (2, .setup ⟨1, 0, .build (.ok ())⟩,
        [.hardenFiles, .issueCertificate "abc.example", .loadCertificate,
          .createAuthority "abc.example" "a@b.com"],
        [.startTunnel 0, .createTunnel 0 ⟨"relay1", 443⟩, .hardenFiles,
          .issueCertificate "abc.example", .loadCertificate,
          .createAuthority "abc.example" "a@b.com"]) := rfl
  obtain ⟨w, run, seen⟩ := Option.bind_eq_some_iff.1 seen
  obtain ⟨w', turn, seen⟩ := Option.map_eq_some_iff.1 seen
  simp only [Prod.mk.injEq] at seen
  obtain ⟨generation, job, before, after⟩ := seen
  refine ⟨w, w', ⟨1, 0, .build (.ok ())⟩, run, point?_of_setup job, .setup rfl, ?_, turn, ?_⟩
  · intro current
    cases generation.symm.trans current
  · rw [after, before]

end TunnelKeeper.Coordinator
