import TunnelKeeper.Proofs.Dials
import TunnelKeeper.Proofs.Hangups
import TunnelKeeper.Proofs.Renewals

/-!
Who watches a connection. While the backend that is ready is connected, a guard is in its slot, or
somebody is about to take the connection down: a call to disconnect, or a cancelled guard that undoes
its own. So whoever asks to connect leaves a guard behind, unless they are content with a connection
that is being undone.
-/

namespace TunnelKeeper.Coordinator

open World Cooperative

/-! ### Attempts and the guards that they leave behind -/

/-- An attempt that no guard makes sees to it that there is one. -/
lemma Outline.occupant_endAttempt {c : Outline} {a : Attempt} (t : TaskId)
    (unguarded : a.guarded = false) (ready : c.state.active? = some a.active) :
    (c.endAttempt t a).guardSlot.occupant ≠ none := by
  have there : c.state.activeFor? a.active.generation = some a.active :=
    BackendState.activeFor?_eq_some_iff.2 ⟨BackendState.active?_eq_some_iff.1 ready, rfl⟩
  unfold endAttempt startGuard
  simp only [unguarded, there, Option.isNone_some, Bool.false_or, Bool.false_eq_true, if_false]
  split
  · next running => exact Option.isSome_iff_ne_none.1 running
  · exact Option.some_ne_none _

namespace Deed

variable {t : TaskId} {o : Owner} {c d : Outline} {x y : Job} {a : Attempt}

lemma occupant_of_attempt (deed : Deed t o c (.attempt a) d .rest) (unguarded : a.guarded = false)
    (ready : c.state.active? = some a.active) : d.guardSlot.occupant ≠ none := by
  generalize ended : Job.rest = y at deed
  cases deed with
  | dropped _ _ checking => rcases checking with eq | ⟨p, eq⟩ | ⟨p, eq⟩ <;> cases eq
  | takeReady withHandler _ _ asked | take withHandler _ asked =>
    cases withHandler <;> cases asked
  | attemptOn | dial | undo => cases ended
  | attemptOver => exact Outline.occupant_endAttempt t unguarded ready
  | undone => exact Outline.occupant_endAttempt (c := c.setConnected _ false) t unguarded ready
  | connected lasting =>
    rw [Outline.connect_eq]
    exact Outline.occupant_endAttempt t unguarded ready
  | connectedLate lasting =>
    rw [Outline.connect_eq]
    exact Outline.occupant_endAttempt t unguarded ready

lemma cancelled_of_undo {call : Call Unit} (deed : Deed t o c x d (.attempt a))
    (undo : a.step = .undo call) : a.guarded = true ∧ c.isCancelled t = true := by
  generalize after : Job.attempt a = y at deed
  cases deed with
  | queue _ lock =>
    cases after
    cases lock.symm.trans undo
  | attemptOn | dial =>
    cases after
    cases undo
  | undo _ _ guarded cancelled =>
    cases after
    exact ⟨guarded, cancelled⟩
  | _ => cases after

lemma hangUp_of_disconnect {p : DisconnectPoint} (deed : Deed t o c x d (.disconnect p)) :
    x = .hangUp := by
  generalize after : Job.disconnect p = y at deed
  cases deed with
  | hangUp => rfl
  | _ => cases after

end Deed

variable {t u : TaskId} {m : Move} {w w' : World}

namespace Move

lemma state_of_attempt {a : Attempt} (move : (Move.turn t).outcome? w = some w')
    (at_it : w.outline.job t = .attempt a) : w'.state = w.state := by
  obtain ⟨task, d, y, here, turned, ending⟩ := turn_cases move
  obtain job : task.job = .attempt a := (outline_job here).symm.trans at_it
  refine ending.state.trans ?_
  rw [job] at turned
  cases turned with
  | once deed => exact deed.attempt_keeps.1
  | andLost same deed =>
    cases same
    exact (deed.attempt_keeps.1 :)

/-- When an attempt that no guard makes is over, a guard is in its slot. -/
lemma occupant_of_attempt {a : Attempt} (back : Background w.outline)
    (move : (Move.turn t).outcome? w = some w') (at_it : w.outline.job t = .attempt a)
    (unguarded : a.guarded = false) (ready : w.state.active? = some a.active)
    (ended : w'.outline.job t = .rest) : w'.guardSlot.occupant ≠ none := by
  obtain ⟨task, d, y, here, turned, ending⟩ := turn_cases move
  obtain job : task.job = .attempt a := (outline_job here).symm.trans at_it
  obtain rfl : y = .rest := ending.job.symm.trans ended
  have slot : w'.guardSlot = d.guardSlot :=
    back.guardSlot_of_ending (outline_owner here) turned ending
  rw [slot]
  rw [job] at turned
  cases turned with
  | once deed => exact deed.occupant_of_attempt unguarded ready
  | andLost same deed guard =>
    cases same
    exact deed.occupant_of_attempt unguarded ready

lemma occupant_of_connected {a : Attempt} (regular : w.Regular)
    (move : (Move.turn t).outcome? w = some w') (at_it : w.outline.job t = .attempt a)
    (ready : w.state.active? = some a.active)
    (live : a.guarded = true → w.outline.isCancelled t = false)
    (ended : w'.outline.job t = .rest) : w'.guardSlot.occupant ≠ none := by
  cases guarded : a.guarded with
  | false => exact occupant_of_attempt regular.back move at_it guarded ready ended
  | true =>
    obtain ⟨task, here, job⟩ := exists_attempt at_it
    have own := outline_owner here
    have guard := (regular.back.attempt t _ a own at_it).1.symm.trans guarded
    have inside : w.guardSlot.occupant = some t :=
      (regular.back.inside_or_cancelled own guard).resolve_right fun cancelled => by
        cases (live guarded).symm.trans cancelled
    intro empty
    rcases (regular.back.guard_leaves move inside (empty ▸ nofun)).1 with
      ⟨u, entry, turn, asked⟩ | taken
    · cases turn
      cases asked.symm.trans here
      cases job
    · exact Nat.succ_ne_self _
        (congrArg BackendState.generation (taken.symm.trans (state_of_attempt move at_it)))

lemma cancelled_of_undo {a : Attempt} {call : Call Unit}
    (move : (Move.turn t).outcome? w = some w') (after : w'.outline.job t = .attempt a)
    (undo : a.step = .undo call) : a.guarded = true ∧ w.isCancelled t = true := by
  obtain ⟨task, d, y, here, turned, ending⟩ := turn_cases move
  obtain rfl : y = .attempt a := ending.job.symm.trans after
  cases turned with
  | once deed => exact deed.cancelled_of_undo undo

lemma disconnect_before {p : DisconnectPoint} (back : Background w.outline)
    (move : m.outcome? w = some w') (after : w'.outline.job u = .disconnect p) :
    w.outline.job u = .disconnect p ∨ m.Disconnects w := by
  by_cases mine : m = .turn u
  · subst mine
    obtain ⟨task, d, y, here, turned, ending⟩ := turn_cases move
    obtain rfl : y = .disconnect p := ending.job.symm.trans after
    cases turned with
    | once deed =>
      obtain ⟨entry, operation, rfl⟩ := Task.asked_of_job (.inr deed.hangUp_of_disconnect)
      obtain rfl := Operation.job_eq_hangUp.1 deed.hangUp_of_disconnect
      exact .inr ⟨u, entry, rfl, here⟩
  · rcases Move.job_cases back move mine with same | rest | ⟨operation, asked⟩ | ⟨t, p, -, -, setup⟩
    · exact .inl (same.symm.trans after)
    · cases rest.symm.trans after
    · have after := asked.symm.trans after
      cases operation <;> cases after
    · cases setup.symm.trans after

/-- Whoever disconnects a backend that is connected comes to take its connection down. -/
lemma disconnect_of_connected {entry : Nat} {b : Active} (back : Background w.outline)
    (here : w.schedule.point? t = some (.asked entry .disconnect))
    (move : (Move.turn t).outcome? w = some w') (ready : w.state.active? = some b)
    (up : w.isConnected b.tunnel = true) :
    ∃ p, w'.outline.job t = .disconnect p ∧ p.tunnel = b.tunnel := by
  obtain ⟨task, d, y, here', turned, ending⟩ := turn_cases move
  cases here.symm.trans here'
  cases turned with
  | andLost attempt => cases attempt
  | once deed =>
    obtain ⟨p, rfl, same⟩ := (deed.hangUp_cases back).2.2.2 b ready up
    exact ⟨p, ending.job, same⟩

end Move

/-! ### Connections that are watched -/

/-- The task is a cancelled guard that is about to take its connection down again. -/
def World.Undoes (t : TaskId) (n : TunnelId) (w : World) : Prop :=
  ∃ g a call, w.schedule.point? t = some (.guard g (.attempt a)) ∧ w.isCancelled t = true ∧
    a.step = .undo call ∧ a.active.tunnel = n

/-- If the backend that is ready is connected, a guard is in its slot, or somebody is about to take
the connection down. -/
def World.Supervised (w : World) : Prop :=
  ∀ b, w.state.active? = some b → w.isConnected b.tunnel = true → w.guardSlot.occupant ≠ none ∨
    (∃ t p, w.outline.job t = .disconnect p ∧ p.tunnel = b.tunnel) ∨ ∃ t, w.Undoes t b.tunnel

lemma World.Undoes.move {n : TunnelId} (h : w.Undoes u n) (move : m.outcome? w = some w')
    (up : w'.isConnected n = true) : w'.Undoes u n := by
  obtain ⟨g, a, call, here, cancelled, undo, rfl⟩ := h
  by_cases mine : m = .turn u
  · subst mine
    cases (Move.down_of_undo move (outline_job here) undo).symm.trans up
  · exact ⟨g, a, call, Move.point?_kept move here mine rfl, Move.isCancelled move cancelled, undo,
      rfl⟩

namespace World.Supervised

/-- A backend that has just been connected is watched by a guard, or the connection is undone. -/
lemma of_connected {a : Attempt} {b : Active} (regular : w.Regular)
    (move : (Move.turn t).outcome? w = some w') (at_it : w.outline.job t = .attempt a)
    (ends : a.Ends t w.outline (w'.outline.job t)) (ready : w.state.active? = some b)
    (same : a.active.tunnel = b.tunnel) :
    w'.guardSlot.occupant ≠ none ∨ ∃ t, w'.Undoes t b.tunnel := by
  obtain rfl : a.active = b :=
    (regular.placed.served t a at_it).eq_of_ready regular.owns ready same
  generalize after : w'.outline.job t = y at ends
  cases ends with
  | inTime _ live =>
    exact .inl (Move.occupant_of_connected regular move at_it ready live after)
  | late late =>
    have current := congrArg BackendState.generation (BackendState.active?_eq_some_iff.1 ready)
    exact absurd current late
  | undo call =>
    obtain ⟨guarded, cancelled⟩ := Move.cancelled_of_undo move after rfl
    obtain ⟨task, there, job⟩ := exists_attempt after
    have guard := ((regular.move move).back.attempt t _ _ (outline_owner there) after).1
    cases task with
    | guard g p =>
      have there := point?_of_guard (outline_owner there) after
      exact .inr ⟨t, g, _, call, there, Move.isCancelled move cancelled, rfl, rfl⟩
    | _ => cases guard.symm.trans guarded

lemma move (h : w.Supervised) (regular : w.Regular) (move : m.outcome? w = some w') :
    w'.Supervised := by
  intro b ready up
  have untaken : ¬ w.TakesAway w' := by
    intro taken
    rw [taken] at ready
    cases ready
  rcases Move.isConnected_cases move up with was | ⟨t, a, rfl, at_it, same, -, ends⟩
  · have before := HungUp.ready_before regular move ready was
    rcases h b before was with watched | ⟨u, p, at_it, same⟩ | ⟨u, undoes⟩
    · obtain ⟨u, inside⟩ := Option.ne_none_iff_exists'.1 watched
      by_cases stays : w'.guardSlot.occupant = some u
      · exact .inl (stays ▸ nofun)
      · obtain ⟨t, entry, rfl, here⟩ :=
          (regular.back.guard_leaves move inside stays).1.resolve_right untaken
        exact .inr (.inl ⟨t, Move.disconnect_of_connected regular.back here move before was⟩)
    · by_cases mine : m = .turn u
      · subst mine
        cases (same ▸ Move.down_of_disconnect move at_it).symm.trans up
      · have kept := Move.job_kept regular.back move (at_it ▸ nofun) mine
        exact .inr (.inl ⟨u, p, kept.trans at_it, same⟩)
    · exact .inr (.inr ⟨u, undoes.move move up⟩)
  · have state : w.state.active? = some b := Move.state_of_attempt move at_it ▸ ready
    exact (of_connected regular move at_it ends state same).imp_right .inr

end World.Supervised

lemma Reaches.supervised {s : Setting} (run : Reaches s.world w) : w.Supervised :=
  (run.keeps (P := fun v => v.Regular ∧ v.Supervised)
    (fun move h => ⟨h.1.move move, h.2.move h.1 move⟩) ⟨(Reaches.refl _).regular, nofun⟩).2

/-- A guard of the backend of a generation is in the slot, and it goes on. -/
def World.Guarded (g : Nat) (w : World) : Prop :=
  ∃ t p, w.guardSlot.occupant = some t ∧ w.schedule.point? t = some (.guard g p) ∧
    w.isCancelled t = false

lemma World.Guarded.of_occupant {b : Active} (back : Background w.outline)
    (watched : w.guardSlot.occupant ≠ none) (ready : w.state.active? = some b) :
    w.Guarded b.generation := by
  obtain ⟨t, inside⟩ := Option.ne_none_iff_exists'.1 watched
  have own : w.outline.owner t = some (.guard w.state.generation) := (back.ready t inside).1
  rw [BackendState.active?_eq_some_iff.1 ready] at own
  obtain ⟨task, here, guard⟩ := Option.map_eq_some_iff.1 own
  cases task with
  | guard g p =>
    cases guard
    exact ⟨t, p, inside, here, back.live_of_guard inside⟩
  | _ => cases guard

/-! ### Whoever connects -/

variable {entry : Nat} {operation : Operation} {task next : Task}

namespace Task

lemma caller_of_connects (connects : task.connectsFor entry) : task.owner = .caller := by
  cases task with
  | asked | connect => rfl
  | _ => exact connects.elim

lemma connect_of_connects (connects : task.connectsFor entry)
    (came : (resume t task w).2 = some next) : ∃ a, next = .connect entry a := by
  cases task with
  | asked e operation =>
    cases operation with
    | connect | request =>
      cases connects
      exact exists_point_of_report came
    | _ => exact connects.elim
  | connect e a =>
    cases connects
    exact exists_point_of_report came
  | _ => exact connects.elim

end Task

namespace Connect

lemma connected_of_start {guarded : Bool} (ok : (start t guarded w).2 = .done .ok) :
    w.hasConnection = true ∧ (start t guarded w).1 = w := by
  unfold start World.hasConnection at *
  cases ready : w.state.active? with
  | none => simp [ready] at ok
  | some b => cases up : w.isConnected b.tunnel <;> simp [ready, up] at ok ⊢

lemma connected_of_request {caller : String} (ok : (request t caller w).2 = .done .ok) :
    w.hasConnection = true ∧ (request t caller w).1 = w := by
  unfold request at ok ⊢
  cases ready : w.state.active? with
  | none => simp [ready] at ok
  | some b =>
    cases up : w.isConnected b.tunnel with
    | true => simp [World.hasConnection, ready, up]
    | false =>
      simp only [ready, up] at ok
      have connected : w.hasConnection = true := (connected_of_start ok).1
      rw [World.hasConnection, ready, Option.any_some, up] at connected
      cases connected

end Connect

namespace Task

lemma ok_of_report {P : Type} {point : P → Task} {turn : Turn P Result}
    (gone : (report entry point id turn).2 = none)
    (told : (report entry point id turn).1.trace.head?.map Prod.snd = some (.done entry .ok)) :
    turn.2 = .done .ok ∧ (report entry point id turn).1 = turn.1.record (.done entry .ok) := by
  obtain ⟨v, p | result | _⟩ := turn
  · cases gone
  · cases told
    exact ⟨rfl, rfl⟩
  · cases told

/-- Whoever asks to connect and is told at once that all is well finds a connection. -/
lemma connected_of_asked (connects : (asked entry operation).connectsFor entry)
    (gone : (begin t entry operation w).2 = none)
    (told : (begin t entry operation w).1.trace.head?.map Prod.snd = some (.done entry .ok)) :
    w.hasConnection = true ∧ (begin t entry operation w).1 = w.record (.done entry .ok) := by
  cases operation with
  | connect =>
    obtain ⟨ok, same⟩ := ok_of_report gone told
    obtain ⟨connected, stays⟩ := Connect.connected_of_start ok
    exact ⟨connected, same.trans (by rw [stays])⟩
  | request caller =>
    obtain ⟨ok, same⟩ := ok_of_report gone told
    obtain ⟨connected, stays⟩ := Connect.connected_of_request ok
    exact ⟨connected, same.trans (by rw [stays])⟩
  | _ => exact connects.elim

end Task

lemma Move.connected_of_asked (turn : (Move.turn t).outcome? w = some w')
    (here : w.schedule.point? t = some (.asked entry operation))
    (connects : (Task.asked entry operation).connectsFor entry)
    (gone : w'.schedule.point? t = none)
    (told : w'.trace.head?.map Prod.snd = some (.done entry .ok)) :
    w.hasConnection = true ∧ w'.state = w.state ∧ w'.tunnels = w.tunnels := by
  obtain ⟨task, here', -, rfl⟩ := exists_of_turn turn
  cases here.symm.trans here'
  have ended := (point?_advance t (.asked entry operation) w).symm.trans gone
  rw [advance_eq] at told ⊢
  obtain ⟨connected, same⟩ := Task.connected_of_asked connects ended told
  have state := congrArg World.state same
  have tunnels := congrArg World.tunnels same
  exact ⟨connected, state, tunnels⟩

/-- The task has been asked to connect and has yet to begin, or it makes an attempt to connect the
backend that is ready. -/
structure World.Connecting (t : TaskId) (entry : Nat) (operation : Operation) (w : World) :
    Prop where
  old : t < w.schedule.next
  point : ∀ task, w.schedule.point? t = some task → task = .asked entry operation ∨
    ∃ a, task = .connect entry a ∧ a.guarded = false ∧ w.state.active? = some a.active

lemma World.Connecting.move (h : w.Connecting t entry operation)
    (connects : (Task.asked entry operation).connectsFor entry) (back : Background w.outline)
    (move : m.outcome? w = some w') (there : ¬ w.TakesAway w') :
    w'.Connecting t entry operation := by
  refine ⟨Nat.lt_of_lt_of_le h.old (Move.next_le move), fun next after => ?_⟩
  have stays {b : Active} (ready : w.state.active? = some b) : w'.state = w.state :=
    (Move.state_of_ready move (BackendState.active?_eq_some_iff.1 ready)).resolve_right there
  by_cases mine : m = .turn t
  · subst mine
    right
    obtain ⟨task, d, y, here, turned, ending⟩ := turn_cases move
    have connects : task.connectsFor entry := by
      rcases h.point task here with rfl | ⟨a, rfl, -⟩
      · exact connects
      · exact rfl
    obtain ⟨a, rfl⟩ : ∃ a, next = .connect entry a := by
      obtain ⟨task', here', -, rfl⟩ := exists_of_turn move
      cases here.symm.trans here'
      exact Task.connect_of_connects connects ((point?_advance t task w).symm.trans after)
    obtain rfl : y = .attempt a := ending.job.symm.trans (outline_job after)
    refine ⟨a, rfl, ?_⟩
    cases turned with
    | once deed =>
      rcases deed.attempt_cases with ⟨ready, owned, -⟩ | ⟨a', job, active, guarded⟩
      · rw [Task.caller_of_connects connects] at owned
        exact ⟨owned, stays ready ▸ ready⟩
      · rcases h.point task here with rfl | ⟨a'', rfl, unguarded, ready⟩
        · cases operation <;> cases job
        · cases job
          exact ⟨guarded ▸ unguarded, active ▸ stays ready ▸ ready⟩
  · cases here : w.schedule.point? t with
    | none => cases (Move.gone back move h.old here).symm.trans after
    | some task =>
      rcases h.point task here with rfl | ⟨a, rfl, unguarded, ready⟩
      · cases (Move.point?_kept move here mine rfl).symm.trans after
        exact .inl rfl
      · cases (Move.point?_kept move here mine rfl).symm.trans after
        exact .inr ⟨a, rfl, unguarded, stays ready ▸ ready⟩

/-- Nobody is in the middle of a call to disconnect. -/
def World.NobodyHangsUp (w : World) : Prop := ∀ t, w.hangsUp t = false

lemma World.NobodyHangsUp.of_tasks (none : w.schedule.tasks.any (·.2.job.hangsUp) = false) :
    w.NobodyHangsUp := by
  intro t
  cases here : w.schedule.point? t with
  | none => exact hangsUp_of_none here
  | some task =>
    rw [hangsUp, outline_job here]
    exact Bool.eq_false_iff.2 (List.any_eq_false.1 none _ (Schedule.mem_of_point? here))

lemma World.NobodyHangsUp.job (h : w.NobodyHangsUp) (u : TaskId) (p : DisconnectPoint) :
    w.outline.job u ≠ .disconnect p := by
  intro at_it
  cases (h u).symm.trans (Job.hangsUp_iff.2 ⟨p, at_it⟩)

lemma World.NobodyHangsUp.move (h : w.NobodyHangsUp) (back : Background w.outline)
    (move : m.outcome? w = some w') (quiet : ¬ m.Disconnects w) : w'.NobodyHangsUp := by
  intro u
  refine Bool.eq_false_iff.2 fun hangs => ?_
  obtain ⟨p, after⟩ := Job.hangsUp_iff.1 hangs
  exact (Move.disconnect_before back move after).elim (h.job u p) quiet

/-- **Whoever connects leaves a guard behind**, for the backend that is ready when they are told
that all is well, if nobody disconnects or takes the backend away meanwhile. They do not if they are
told so at once because the backend is connected, and a guard that has been cancelled is about to
undo that connection. -/
theorem connecting_leaves_guard {s : Setting} {v w w' : World} {moves : List Move}
    (before : Reaches s.world v) (here : v.schedule.point? t = some (.asked entry operation))
    (connects : (Task.asked entry operation).connectsFor entry) (idle : v.NobodyHangsUp)
    (run : v.after? moves = some w)
    (quiet : v.Throughout (fun m u u' => ¬ m.Disconnects u ∧ ¬ u.TakesAway u') moves)
    (turn : (Move.turn t).outcome? w = some w') (gone : w'.schedule.point? t = none)
    (told : w'.trace.head?.map Prod.snd = some (.done entry .ok)) :
    ∃ b, w'.state.active? = some b ∧ (w'.Guarded b.generation ∨
      w.schedule.point? t = some (.asked entry operation) ∧ w.isConnected b.tunnel = true ∧
        ∃ u, w'.Undoes u b.tunnel) := by
  have regular := before.regular
  have old := regular.back.sound.lt_next (outline_owner here)
  obtain ⟨regular, supervised, connecting, idle⟩ := quiet.keeps
    (I := fun u => u.Regular ∧ u.Supervised ∧ u.Connecting t entry operation ∧ u.NobodyHangsUp)
    (fun move quiet h => ⟨h.1.move move, h.2.1.move h.1 move,
      h.2.2.1.move connects h.1.back move quiet.2, h.2.2.2.move h.1.back move quiet.1⟩) run
    ⟨regular, before.supervised,
      ⟨old, fun task there => .inl (Option.some.inj (there.symm.trans here))⟩, idle⟩
  have supervised := supervised.move regular turn
  have back := (regular.move turn).back
  obtain ⟨task, -, -, here, -, -⟩ := turn_cases turn
  rcases connecting.point task here with rfl | ⟨a, rfl, unguarded, ready⟩
  · have idle := idle.move regular.back turn (by
      rintro ⟨u, entry', same, asked⟩
      cases same
      cases here.symm.trans asked
      exact connects)
    obtain ⟨connected, state, tunnels⟩ := Move.connected_of_asked turn here connects gone told
    obtain ⟨b, ready, up⟩ := (Option.any_eq_true ..).1 connected
    have up' : w'.isConnected b.tunnel = true := by
      rw [World.isConnected, tunnels]
      exact up
    rw [← state] at ready
    refine ⟨b, ready, ?_⟩
    rcases supervised b ready up' with watched | ⟨u, p, at_it, -⟩ | undoes
    · exact .inl (.of_occupant back watched ready)
    · exact absurd at_it (idle.job u p)
    · exact .inr ⟨here, up, undoes⟩
  · have at_it : w.outline.job t = .attempt a := outline_job here
    have watched := Move.occupant_of_attempt regular.back turn at_it unguarded ready
      (congrArg jobOf gone)
    have ready := Move.state_of_attempt turn at_it ▸ ready
    exact ⟨a.active, ready, .inl (.of_occupant back watched ready)⟩

/-- Somebody asks to connect while the guard reconnects the backend, and waits until it has: the
guard is still there. -/
theorem reconnected_caller_leaves_guard : ∃ v w w' : World,
    ({} : Setting).world.after? (firstBackend ++ reconnecting ++ [.ask .connect]) = some v ∧
      v.after? [.turn 5, .turn 4] = some w ∧ (Move.turn 5).outcome? w = some w' ∧
      w'.schedule.point? 5 = none ∧ w'.state.active? = some ⟨1, 0, 0⟩ ∧ w'.Guarded 1 := by
  have seen : (({} : Setting).world.after? (firstBackend ++ reconnecting ++ [.ask .connect])).bind
      (fun v => (v.after? [.turn 5, .turn 4]).bind fun w => ((Move.turn 5).outcome? w).map fun w' =>
        (v.schedule.point? 5, v.schedule.tasks.any (·.2.job.hangsUp),
          decide (v.Throughout (fun m u u' => ¬ m.Disconnects u ∧ ¬ u.TakesAway u')
            [.turn 5, .turn 4]),
          w'.schedule.point? 5, w'.trace.head?.map Prod.snd, w'.state.active?,
          w'.attempts.isEmpty)) =
      some (some (.asked 2 .connect), false, true, none, some (.done 2 .ok), some ⟨1, 0, 0⟩,
        true) := rfl
  obtain ⟨v, before, seen⟩ := Option.bind_eq_some_iff.1 seen
  obtain ⟨w, run, seen⟩ := Option.bind_eq_some_iff.1 seen
  obtain ⟨w', turn, seen⟩ := Option.map_eq_some_iff.1 seen
  simp only [Prod.mk.injEq, decide_eq_true_eq] at seen
  obtain ⟨here, idle, quiet, gone, told, ready, nobody⟩ := seen
  refine ⟨v, w, w', before, run, turn, gone, ready, ?_⟩
  obtain ⟨b, ready', guarded | ⟨-, -, u, g, a, call, undoes, -⟩⟩ :=
    connecting_leaves_guard ⟨_, before⟩ here rfl (.of_tasks idle) run quiet turn gone told
  · cases ready.symm.trans ready'
    exact guarded
  · have there := mem_attempts (outline_job undoes)
    rw [List.isEmpty_iff.1 nobody] at there
    cases there

/-- A guard brings the connection up after somebody has disconnected, and is about to undo that. -/
def undoing : List Move :=
  firstBackend ++ reconnecting ++ [.ask .disconnect, .turn 5, .turn 4, .ask .connect]

/-- Whoever connects then is told at once that all is well, and there is no guard. -/
theorem undone_connection_leaves_no_guard : ∃ w w' : World,
    ({} : Setting).world.after? undoing = some w ∧
      w.schedule.point? 6 = some (.asked 3 .connect) ∧ w.NobodyHangsUp ∧
      (Move.turn 6).outcome? w = some w' ∧ w'.schedule.point? 6 = none ∧
      w'.trace.head?.map Prod.snd = some (.done 3 .ok) ∧ w'.state.active? = some ⟨1, 0, 0⟩ ∧
      ∀ g, ¬ w'.Guarded g := by
  have seen : (({} : Setting).world.after? undoing).bind (fun w =>
      ((Move.turn 6).outcome? w).map fun w' => (w.schedule.point? 6,
        w.schedule.tasks.any (·.2.job.hangsUp), w'.schedule.point? 6,
        w'.trace.head?.map Prod.snd, w'.state.active?, w'.guardSlot.occupant)) =
      some (some (.asked 3 .connect), false, none, some (.done 3 .ok), some ⟨1, 0, 0⟩, none) := rfl
  obtain ⟨w, run, seen⟩ := Option.bind_eq_some_iff.1 seen
  obtain ⟨w', turn, seen⟩ := Option.map_eq_some_iff.1 seen
  simp only [Prod.mk.injEq] at seen
  obtain ⟨here, idle, gone, told, ready, empty⟩ := seen
  refine ⟨w, w', run, here, .of_tasks idle, turn, gone, told, ready, ?_⟩
  rintro g ⟨t, p, inside, -⟩
  cases empty.symm.trans inside

end TunnelKeeper.Coordinator
