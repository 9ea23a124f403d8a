import TunnelKeeper.Proofs.Points
import TunnelKeeper.Proofs.Slots

/-!
Who is new. Tasks are numbered as they come, so whoever has an old number has been there before or is
gone for good. In particular a guard that has yet to begin has just come into its slot, or it has
been there all along.
-/

namespace TunnelKeeper.Coordinator

open World Cooperative

variable {t u : TaskId} {g : Nat} {m : Move} {w w' : World}

lemma Move.owner_before {o : Owner} (back : Background w.outline) (move : m.outcome? w = some w')
    (old : u < w.schedule.next) (own : w'.outline.owner u = some o) :
    w.outline.owner u = some o := by
  have spawned {c : Outline} {o' : Owner} {x : Job} (sound : c.toRoster.Sound)
      (old : u < c.next) (own : (c.toRoster.spawn o' x).owner u = some o) :
      c.owner u = some o := by
    rwa [sound.owner_spawn, if_neg (Nat.ne_of_lt old)] at own
  rcases Move.cases move with ⟨t, task, d, y, rfl, here, turned, ending⟩ | ⟨-, happened⟩
  · have own : d.owner u = some o := by
      generalize w'.outline = e at ending own
      cases ending with
      | pass => exact own
      | finish => exact (Roster.of_owner_remove own).2
    have before {d : Outline} {y : Job} (deed : Deed t task.owner w.outline task.job d y)
        (own : d.owner u = some o) : w.outline.owner u = some o := by
      rcases deed.roster with same | ⟨o', x', new, -⟩
      · rwa [same] at own
      · rw [new] at own
        exact spawned back.sound old own
    cases turned with
    | once deed => exact before deed own
    | andLost _ deed => exact before deed own
  · generalize w'.outline = e at happened own
    cases happened with
    | same | drop | host => exact own
    | ask operation => exact spawned back.sound old own
    | giveUp => exact (Roster.of_owner_remove own).2

lemma Move.gone (back : Background w.outline) (move : m.outcome? w = some w')
    (old : u < w.schedule.next) (gone : w.schedule.point? u = none) :
    w'.schedule.point? u = none := by
  refine Option.eq_none_iff_forall_ne_some.2 fun task there => ?_
  have before := Move.owner_before back move old (outline_owner there)
  rw [show w.outline.owner u = _ from congrArg (Option.map Task.owner) gone] at before
  cases before

lemma Move.next_le (move : m.outcome? w = some w') : w.schedule.next ≤ w'.schedule.next := by
  rcases Move.cases move with ⟨t, task, d, y, rfl, here, turned, ending⟩ | ⟨-, happened⟩
  · have grown {d : Outline} {y : Job} (deed : Deed t task.owner w.outline task.job d y) :
        w.outline.next ≤ d.next := by
      rcases deed.roster with same | ⟨o', x', spawned, -⟩
      · exact Nat.le_of_eq (by rw [same])
      · rw [spawned]
        exact Nat.le_succ _
    have kept : w'.outline.next = d.next := by
      generalize w'.outline = e at ending
      cases ending <;> rfl
    show w.outline.next ≤ w'.outline.next
    rw [kept]
    cases turned with
    | once deed => exact grown deed
    | andLost _ deed => exact (grown deed :)
  · show w.outline.next ≤ w'.outline.next
    generalize w'.outline = e at happened
    cases happened with
    | ask => exact Nat.le_succ _
    | _ => exact Nat.le_refl _

/-- Only who is in the slot is ever cancelled, so nobody is cancelled when they come. -/
lemma Move.old_of_cancelled (back : Background w.outline) (move : m.outcome? w = some w')
    (cancelled : u ∈ w'.guardSlot.cancelled) : u < w.schedule.next := by
  have past (cancelled : u ∈ w.outline.guardSlot.cancelled) : u < w.schedule.next :=
    (back.guard.cancelled u cancelled).1
  rcases Move.cases move with ⟨t, task, d, y, rfl, here, turned, ending⟩ | ⟨-, happened⟩
  · have cancelled : u ∈ d.guardSlot.cancelled := by
      have cancelled : u ∈ w'.outline.guardSlot.cancelled := cancelled
      generalize w'.outline = e at ending cancelled
      cases ending with
      | pass => exact cancelled
      | finish => exact (d.guardSlot.cancelled_finish t) ▸ cancelled
    rcases turned.guardSlot_cases with same | ⟨emptied, -⟩ | ⟨-, filled, -⟩
    · exact past (same ▸ cancelled)
    · rw [emptied, TaskSlot.cancel] at cancelled
      split at cancelled
      · exact past cancelled
      · next v there =>
        rcases List.mem_cons.1 cancelled with rfl | cancelled
        · obtain ⟨⟨o, own, -⟩, -⟩ := back.guard.occupant u there
          exact back.sound.lt_next own
        · exact past cancelled
    · rw [filled] at cancelled
      exact past cancelled
  · rw [← show w'.guardSlot = w.outline.guardSlot from happened.same_slots.2.1] at past
    exact past cancelled

lemma Guard.wait_ne_start (p : GuardPoint) (w : World) : (resume t g p w).2 ≠ .wait .start := by
  have round_ne (v : World) : (round g v).2 ≠ .wait .start := by
    unfold round
    split
    · nofun
    · split <;> nofun
  have attempting_ne (turn : Turn Attempt Result) : (attempting t g turn).2 ≠ .wait .start := by
    obtain ⟨v, a | result | _⟩ := turn
    · nofun
    · rcases attempting_done t g v result with ended | next
      · rw [ended]
        nofun
      · rw [next]
        exact round_ne v
    · nofun
  unfold resume
  cases p with
  | start => exact round_ne w
  | watch n =>
    dsimp only
    split <;> nofun
  | sleep due =>
    dsimp only
    split
    · nofun
    · exact attempting_ne _
  | attempt a => exact attempting_ne _

lemma Move.guard_goes_on {q : GuardPoint} (move : (Move.turn u).outcome? w = some w')
    (there : w'.schedule.point? u = some (.guard g q)) :
    ∃ p, w.schedule.point? u = some (.guard g p) ∧ (Guard.resume u g p w).2 = .wait q ∧
      w'.state = (Guard.resume u g p w).1.state ∧ w'.trace = (Guard.resume u g p w).1.trace := by
  obtain ⟨task, here, -, rfl⟩ := exists_of_turn move
  have came := (point?_advance u task w).symm.trans there
  have own : task.owner = .guard g := (Task.owner_resume u came).symm
  cases task with
  | guard g' p =>
    cases own
    obtain ⟨q', goesOn, same⟩ := Task.exists_wait_of_goOn came
    cases same
    have after := Task.goOn_fst (.guard g) (Guard.resume u g p w)
    have state := congrArg World.state after
    have trace := congrArg World.trace after
    refine ⟨p, here, goesOn, ?_, ?_⟩
    · rw [advance_eq]
      exact state
    · rw [advance_eq]
      exact trace
  | _ => cases own

/-- A guard that is about to begin has been so before, unless it is in the slot. -/
lemma Move.unbegun_before (back : Background w.outline) (move : m.outcome? w = some w')
    (there : w'.schedule.point? u = some (.guard g .start)) (out : w'.guardSlot.occupant ≠ some u) :
    w.schedule.point? u = some (.guard g .start) := by
  by_cases mine : m = .turn u
  · subst mine
    obtain ⟨p, -, goesOn, -⟩ := guard_goes_on move there
    exact absurd goesOn (Guard.wait_ne_start p w)
  · have own := outline_owner there
    have cancelled : u ∈ w'.guardSlot.cancelled :=
      ((back.step (Move.step move)).guard.known u _ own rfl).resolve_left out
    have before := Move.owner_before back move (Move.old_of_cancelled back move cancelled) own
    obtain ⟨task, here, guard⟩ := Option.map_eq_some_iff.1 before
    cases task with
    | guard g' p =>
      cases (Move.point?_kept move here mine rfl).symm.trans there
      exact here
    | _ => cases guard

lemma Move.guard_before {p : GuardPoint} (move : m.outcome? w = some w')
    (there : w'.schedule.point? u = some (.guard g p)) (begun : p ≠ .start) (other : m ≠ .turn u) :
    w.schedule.point? u = some (.guard g p) := by
  rcases Move.point?_before move there with
    before | mine | new | ⟨entry, operation, -, same⟩ | ⟨t, entry, -, same⟩
  · exact before
  · exact absurd mine other
  · cases p with
    | start => exact absurd rfl begun
    | _ => cases new
  · cases same
  · cases same

lemma Move.inside_before {p : GuardPoint} (back : Background w.outline)
    (move : m.outcome? w = some w') (inside : w'.guardSlot.occupant = some u)
    (there : w'.schedule.point? u = some (.guard g p)) (begun : p ≠ .start) :
    w.guardSlot.occupant = some u := by
  rcases Move.cases move with ⟨t, task, d, y, rfl, here, turned, ending⟩ | ⟨-, happened⟩
  · rw [show w'.guardSlot = d.guardSlot from
      back.guardSlot_of_ending (outline_owner here) turned ending] at inside
    rcases turned.guardSlot_cases with same | ⟨emptied, -⟩ | ⟨-, filled, -⟩
    · rw [same] at inside
      exact inside
    · rw [emptied, TaskSlot.occupant_cancel] at inside
      cases inside
    · rw [filled] at inside
      obtain rfl : w.outline.next = u := Option.some.inj inside
      have fresh {o : Owner} : w.outline.owner w.outline.next ≠ some o :=
        fun own => Nat.lt_irrefl _ (back.sound.lt_next own)
      have other : Move.turn t ≠ .turn w.outline.next := by
        rintro same
        cases same
        exact fresh (outline_owner here)
      exact absurd (outline_owner (guard_before move there begun other)) fresh
  · exact (congrArg TaskSlot.occupant happened.same_slots.2.1).symm.trans inside

end TunnelKeeper.Coordinator
