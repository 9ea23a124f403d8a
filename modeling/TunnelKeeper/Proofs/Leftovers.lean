import TunnelKeeper.Proofs.Dials

/-!
Attempts to connect that outlive their backend. There is one connect lock for all backends, so an
attempt that is under way when its backend is taken away keeps the lock while the next backend comes
up, and the state of the connection does not tell whose attempt it is. Such an attempt begins no
handshake any more, and a few turns of its own bring it to give the lock back.
-/

namespace TunnelKeeper.Coordinator

open World Cooperative

/-! ### Who is at the connect lock -/

def Job.isAttempt : Job → Bool
  | attempt _ => true
  | _ => false

lemma Job.isAttempt_iff {x : Job} : x.isAttempt = true ↔ ∃ a, x = .attempt a := by
  cases x <;> simp [isAttempt]

/-- Whoever holds the connect lock or waits for it makes an attempt to connect, and nobody does both
or waits twice. -/
structure Outline.InLine (c : Outline) : Prop where
  once : c.connectLock.users.Nodup
  trying : ∀ t ∈ c.connectLock.users, (c.job t).isAttempt = true

/-- A task comes to the lock as it begins an attempt, and has left it when the attempt is over. -/
lemma Deed.inLine_cases {t : TaskId} {o : Owner} {c d : Outline} {x y : Job}
    (deed : Deed t o c x d y) :
    d.connectLock = c.connectLock ∧ (x.isAttempt = true → y.isAttempt = true) ∨
      x = .rest ∧ d.connectLock = c.connectLock.enter t ∧ y.isAttempt = true ∨
      d.connectLock = (c.connectLock.leave t).1 := by
  cases deed with
  | dropped _ _ checking =>
    refine .inl ⟨rfl, fun trying => ?_⟩
    rcases checking with rfl | ⟨p, rfl⟩ | ⟨p, rfl⟩ <;> cases trying
  | begin =>
    rw [Outline.begin_eq]
    exact .inl ⟨rfl, nofun⟩
  | stalled said =>
    rw [Outline.hearIf_eq]
    exact .inl ⟨rfl, nofun⟩
  | up _ autostart => cases autostart <;> exact .inl ⟨rfl, nofun⟩
  | takeReady withHandler _ _ asked =>
    rw [Outline.take_eq]
    exact .inl ⟨rfl, fun trying => by cases withHandler <;> cases asked <;> cases trying⟩
  | take withHandler _ asked =>
    rw [Outline.hearIf_eq, Outline.take_eq]
    exact .inl ⟨rfl, fun trying => by cases withHandler <;> cases asked <;> cases trying⟩
  | queue => exact .inr (.inl ⟨rfl, rfl, rfl⟩)
  | attemptOn | dial => exact .inl ⟨rfl, id⟩
  | attemptOver | undone =>
    rw [Outline.endAttempt_eq]
    exact .inr (.inr rfl)
  | connected lasting | connectedLate lasting =>
    rw [Outline.endAttempt_eq, Outline.connect_eq]
    exact .inr (.inr rfl)
  | undo lasting =>
    rw [Outline.connect_eq]
    exact .inl ⟨rfl, id⟩
  | _ => exact .inl ⟨rfl, nofun⟩

lemma Turned.inLine_cases {t : TaskId} {o : Owner} {c d : Outline} {x y : Job}
    (turned : Turned t o c x d y) :
    d.connectLock = c.connectLock ∧ (x.isAttempt = true → y.isAttempt = true) ∨
      x = .rest ∧ d.connectLock = c.connectLock.enter t ∧ y.isAttempt = true ∨
      d.connectLock = (c.connectLock.leave t).1 := by
  cases turned with
  | once deed => exact deed.inLine_cases
  | andLost _ deed => exact (deed.inLine_cases :)

namespace Outline.InLine

variable {m : Move} {w w' : World}

lemma move (h : w.outline.InLine) (back : Background w.outline) (move : m.outcome? w = some w') :
    w'.outline.InLine := by
  -- Who does not have the turn goes on with what they are at.
  have others {u : TaskId} (there : u ∈ w.outline.connectLock.users) (other : m ≠ .turn u) :
      (w'.outline.job u).isAttempt = true := by
    have trying := h.trying u there
    rwa [Move.job_kept back move (fun rests => by rw [rests] at trying; cases trying) other]
  rcases Move.cases move with ⟨t, task, d, y, rfl, here, turned, ending⟩ | ⟨other, happened⟩
  · have lock : w'.outline.connectLock = d.connectLock := by
      generalize w'.outline = e at ending
      cases ending <;> rfl
    have other {u : TaskId} (ne : u ≠ t) : Move.turn t ≠ .turn u := fun same =>
      ne (Move.turn.inj same).symm
    rcases turned.inLine_cases with ⟨same, goesOn⟩ | ⟨rest, entered, begun⟩ | left
    · rw [same] at lock
      refine ⟨lock ▸ h.once, fun u there => ?_⟩
      rw [lock] at there
      by_cases mine : u = t
      · subst mine
        have trying := h.trying u there
        rw [outline_job here] at trying
        rw [ending.job]
        exact goesOn trying
      · exact others there (other mine)
    · rw [entered] at lock
      have users := w.outline.connectLock.users_enter t
      -- Who is at the lock already makes an attempt, and so has not just begun one.
      have new : t ∉ w.outline.connectLock.users := fun there => by
        have trying := h.trying t there
        rw [outline_job here, rest] at trying
        cases trying
      refine ⟨?_, fun u there => ?_⟩
      · rw [lock, users.nodup_iff]
        exact List.nodup_cons.2 ⟨new, h.once⟩
      · rw [lock, users.mem_iff] at there
        rcases List.mem_cons.1 there with rfl | there
        · rw [ending.job]
          exact begun
        · exact others there (other fun same => new (same ▸ there))
    · rw [left] at lock
      have users := Lock.users_leave h.once t
      refine ⟨?_, fun u there => ?_⟩
      · rw [lock, users]
        exact h.once.filter _
      · rw [lock, users, List.mem_filter] at there
        exact others there.1 (other (of_decide_eq_true there.2))
  · have lock : w'.outline.connectLock = w.outline.connectLock := by
      generalize w'.outline = e at happened
      cases happened <;> rfl
    refine ⟨lock ▸ h.once, fun u there => ?_⟩
    rw [lock] at there
    exact others there (other u)

end Outline.InLine

/-- Whoever is at the connect lock makes an attempt, in every run. -/
theorem Reaches.inLine {s : Setting} {w : World} (run : Reaches s.world w) : w.outline.InLine :=
  (run.keeps (P := fun w => Background w.outline ∧ w.outline.InLine)
    (fun move h => ⟨h.1.step (Move.step move), h.2.move h.1 move⟩)
    ⟨s.background, List.nodup_nil, nofun⟩).2

/-! ### Turns of an attempt whose backend is gone -/

/-- How many turns an attempt can still keep the connect lock for, once its backend is gone. -/
def AttemptStep.pending : AttemptStep → Nat
  | lock => 2
  | refresh .lock => 1
  | refresh (.request _ _ _) => 0
  | connect _ => 1
  | undo _ => 0

lemma AttemptStep.pending_le (step : AttemptStep) : step.pending ≤ 2 := by
  unfold pending
  split <;> omega

variable {t : TaskId} {w : World} {a : Attempt}

/-- What a lookup of a token can come to: from the lock to a request, and from there to an end. -/
lemma Refresh.resume_cases (t : TaskId) (c : CycleId) (p : RefreshPoint) (w : World) :
    (∃ answer, (resume t c p w).2 = .done answer) ∨
      p = .lock ∧ ∃ key call deadline, (resume t c p w).2 = .wait (.request key call deadline) := by
  cases p with
  | lock =>
    unfold resume
    dsimp only
    split
    · exact .inl ⟨_, rfl⟩
    · exact .inr ⟨rfl, _, _, _, rfl⟩
  | request key call deadline =>
    unfold resume
    dsimp only
    refine .inl ?_
    split
    · split <;> exact ⟨_, rfl⟩
    · exact ⟨_, rfl⟩

lemma Connect.job_resume_of_late (t : TaskId) (late : w.state.generation ≠ a.active.generation) :
    (resume t a w).2.job .attempt = .rest ∨ ∃ step,
      (resume t a w).2.job .attempt = .attempt { a with step := step } ∧
        step.pending < a.step.pending := by
  obtain ⟨active, guarded, step⟩ := a
  cases step with
  | lock =>
    unfold resume
    dsimp only
    split
    · exact .inl rfl
    · split
      · exact .inl rfl
      · exact .inr ⟨.refresh .lock, rfl, Nat.lt_succ_self 1⟩
  | refresh p =>
    have state : (Refresh.resume t active.registration p w).1.state = w.state :=
      congrArg Outline.state (Refresh.outline_resume t active.registration p w).1
    unfold resume
    dsimp only
    split
    · exact .inl rfl
    · obtain ⟨answer, ended⟩ | ⟨rfl, key, call, deadline, waits⟩ :=
        Refresh.resume_cases t active.registration p w
      · rcases resumed : Refresh.resume t active.registration p w with ⟨v, progress⟩
        rw [resumed] at ended state
        obtain rfl : progress = .done answer := ended
        cases answer with
        | error e => exact .inl rfl
        | ok token =>
          rw [refreshed, connect, if_neg (show ¬ v.state.IsCurrent active.generation from
            fun current => late (state ▸ current))]
          exact .inl rfl
      · rcases resumed : Refresh.resume t active.registration .lock w with ⟨v, progress⟩
        rw [resumed] at waits
        obtain rfl : progress = .wait (.request key call deadline) := waits
        exact .inr ⟨.refresh (.request key call deadline), rfl, Nat.one_pos⟩
  | connect call =>
    unfold resume
    dsimp only
    split
    · exact .inl rfl
    · split
      · exact .inr ⟨.undo _, rfl, Nat.one_pos⟩
      · rw [connected]
        split <;> exact .inl rfl
  | undo call => exact .inl rfl

lemma Guard.job_attempting (t : TaskId) (g : Nat) (turn : Turn Attempt Result) :
    (attempting t g turn).2.job GuardPoint.job = turn.2.job .attempt := by
  obtain ⟨v, b | result | _⟩ := turn
  · rfl
  · rcases attempting_done t g v result with ended | next
    · rw [ended]
      rfl
    · rw [next]
      exact (outline_round g v).1
  · rfl

lemma Task.job_resume_of_attempt {task : Task} (job : task.job = .attempt a) (t : TaskId) (w : World) :
    jobOf (resume t task w).2 = (Connect.resume t a w).2.job .attempt := by
  rcases eq_of_attempt job with ⟨entry, rfl⟩ | rfl | ⟨g, rfl⟩
  · exact job_report (fun _ => rfl) _
  · exact job_goOn (fun _ => rfl) _
  · exact (job_goOn (fun _ => rfl) _).trans (Guard.job_attempting t g _)

namespace Move

variable {w' : World}

/-- In its turn, an attempt whose backend is gone begins no handshake, and it ends or gets closer to
its end. -/
lemma turn_of_late (trying : w.outline.job t = .attempt a)
    (late : w.state.generation ≠ a.active.generation)
    (turn : (Move.turn t).outcome? w = some w') :
    w'.dials = w.dials ∧ (w'.outline.job t = .rest ∨ ∃ step,
      w'.outline.job t = .attempt { a with step := step } ∧ step.pending < a.step.pending) := by
  refine ⟨?_, ?_⟩
  · rcases dials_cases turn with same | ⟨u, b, token, mine, theirs, -, current, -⟩
    · exact same
    · cases mine
      cases trying.symm.trans theirs
      exact absurd current late
  · obtain ⟨task, here, -, rfl⟩ := exists_of_turn turn
    have job : task.job = .attempt a := (outline_job here).symm.trans trying
    have after : (advance t task w).outline.job t = (Connect.resume t a w).2.job .attempt :=
      (congrArg jobOf (point?_advance t task w)).trans (Task.job_resume_of_attempt job t w)
    rw [after]
    exact Connect.job_resume_of_late t late

end Move

/-- While it keeps the lock, an attempt whose backend is gone has few turns. -/
lemma Outline.InLine.turns_le {moves : List Move} {v : World} (h : w.outline.InLine)
    (back : Background w.outline) (trying : w.outline.job t = .attempt a)
    (past : a.active.generation < w.state.generation) (run : w.after? moves = some v)
    (keeps : w.Throughout (fun _ _ u => u.connectLock.holder = some t) moves) :
    w.tally (fun m _ => m.isTurnOf t) moves ≤ a.step.pending := by
  induction moves generalizing w a with
  | nil => exact Nat.zero_le _
  | cons m moves ih =>
    obtain ⟨u, first, rest⟩ := Option.bind_eq_some_iff.1 run
    obtain ⟨held, all⟩ := keeps u first
    have next := h.move back first
    have back' := back.step (Move.step first)
    have past' : a.active.generation < u.state.generation :=
      Nat.lt_of_lt_of_le past (Move.shift first).generation_le
    simp only [tally, first]
    by_cases mine : m = .turn t
    · subst mine
      have one : (Move.turn t).isTurnOf t = true := decide_eq_true rfl
      rw [one, Bool.toNat_true]
      rcases (Move.turn_of_late trying (Nat.ne_of_gt past) first).2 with rests | ⟨step, goesOn, less⟩
      · -- Whoever holds the lock is at an attempt, so this one is not over.
        have there := next.trying t (Lock.mem_users.2 (.inl held))
        rw [rests] at there
        cases there
      · have later := ih next back' goesOn past' rest all
        dsimp only at later
        omega
    · have none : m.isTurnOf t = false := Bool.eq_false_iff.2 (mt Move.isTurnOf_iff.1 mine)
      have busy : w.outline.job t ≠ .rest := by
        intro rests
        cases trying.symm.trans rests
      have still := (Move.job_kept back first busy mine).trans trying
      rw [none, Bool.toNat_false, Nat.zero_add]
      exact ih next back' still past' rest all

/-! ### The lock of a backend that is ready -/

namespace World

/-- While a backend is ready, somebody connects if and only if the lock is held and the tunnel is
down. -/
lemma connecting_iff {g : Nat} {r : CycleId} {n : TunnelId} (ready : w.state = ⟨g, .ready r n⟩) :
    w.connectionState = .connecting ↔ w.isConnected n = false ∧ w.connectLock.IsHeld := by
  unfold connectionState
  rw [ready]
  dsimp only
  split
  · next up => simp [up]
  · next down =>
    rw [Bool.not_eq_true] at down
    split
    · next held => simp [down, held]
    · next free => split <;> simp [free]

end World

/-- **The connect lock outlives the backend that it was taken for.** While a backend is ready, the
lock is held by an attempt to connect it, or by one that is left over from an earlier generation;
that somebody connects is all that the state of the connection tells. An attempt that is left over
begins no handshake any more, and while it keeps the lock it has two more turns at most. -/
theorem connect_lock_outlives_backend {s : Setting} {moves : List Move} {w : World}
    (run : s.world.after? moves = some w) :
    (∀ g r n, w.state = ⟨g, .ready r n⟩ →
        (∀ t, w.connectLock.holder = some t → ∃ a, w.outline.job t = .attempt a ∧
          (a.active = ⟨g, r, n⟩ ∨ a.active.generation < g)) ∧
        (w.connectionState = .connecting ↔ w.isConnected n = false ∧ w.connectLock.IsHeld)) ∧
      ∀ t a, w.outline.job t = .attempt a → a.active.generation < w.state.generation →
        (∀ w', (Move.turn t).outcome? w = some w' → w'.dials = w.dials) ∧
        ∀ more v, w.after? more = some v →
          w.Throughout (fun _ _ u => u.connectLock.holder = some t) more →
            w.tally (fun m _ => m.isTurnOf t) more ≤ 2 := by
  have back : Background w.outline := Reaches.background ⟨moves, run⟩
  have inLine : w.outline.InLine := Reaches.inLine ⟨moves, run⟩
  refine ⟨fun g r n ready => ⟨fun t held => ?_, connecting_iff ready⟩,
    fun t a trying past => ⟨fun w' turn => ?_, fun more v rest keeps => ?_⟩⟩
  · obtain ⟨a, trying⟩ := Job.isAttempt_iff.1 (inLine.trying t (Lock.mem_users.2 (.inl held)))
    obtain ⟨le, current⟩ := Reaches.attempts ⟨moves, run⟩ t a trying
    rw [show w.outline.state = ⟨g, .ready r n⟩ from ready] at le current
    refine ⟨a, trying, (Nat.eq_or_lt_of_le le).imp_left fun same => ?_⟩
    exact (Option.some.inj (current same)).symm
  · exact (Move.turn_of_late trying (Nat.ne_of_gt past) turn).1
  · exact Nat.le_trans (inLine.turns_le back trying past rest keeps) a.step.pending_le

/-- The first backend is closed while it is being connected, and another one comes up. -/
def closedWhileConnecting : List Move :=
  firstBackend.dropLast ++ [.ask .close, .turn 4, .turn 1, .turn 4, .ask .load, .turn 5, .turn 6,
    .turn 5, .turn 5, .turn 7, .turn 7, .build, .turn 7, .turn 7]

lemma after_closedWhileConnecting : ∃ w : World,
    ({} : Setting).world.after? closedWhileConnecting = some w ∧ w.state = ⟨3, .ready 1 1⟩ ∧
      w.connectLock.holder = some 3 ∧ w.attempts.map (·.active.generation) = [1] ∧
      w.connectionState = .connecting ∧
      (w.after? [.ask .connect, .turn 8]).map (fun v => (v.connectLock.waiters,
        ((Move.turn 8).outcome? v).isNone)) = some ([8], true) := by
  have seen : (({} : Setting).world.after? closedWhileConnecting).map (fun w =>
      (w.state, w.connectLock.holder, w.attempts.map (·.active.generation), w.connectionState,
        (w.after? [.ask .connect, .turn 8]).map (fun v => (v.connectLock.waiters,
          ((Move.turn 8).outcome? v).isNone)))) =
      some (⟨3, .ready 1 1⟩, some 3, [1], .connecting, some ([8], true)) := rfl
  obtain ⟨w, run, seen⟩ := Option.map_eq_some_iff.1 seen
  simp only [Prod.mk.injEq] at seen
  exact ⟨w, run, seen⟩

/-- The attempt for the backend that was closed still has the lock, and has two more turns at
most. -/
theorem closed_backend_keeps_connect_lock_for_two_turns : ∃ (w : World) (a : Attempt),
    ({} : Setting).world.after? closedWhileConnecting = some w ∧ w.state = ⟨3, .ready 1 1⟩ ∧
      w.connectLock.holder = some 3 ∧ w.outline.job 3 = .attempt a ∧ a.active.generation = 1 ∧
      w.isConnected 1 = false ∧
      ∀ more v, w.after? more = some v →
        w.Throughout (fun _ _ u => u.connectLock.holder = some 3) more →
          w.tally (fun m _ => m.isTurnOf 3) more ≤ 2 := by
  obtain ⟨w, run, ready, held, attempts, connecting, -⟩ := after_closedWhileConnecting
  obtain ⟨now, leftOver⟩ := connect_lock_outlives_backend run
  obtain ⟨holder, connects⟩ := now 3 1 1 ready
  obtain ⟨a, trying, -⟩ := holder 3 held
  have generation : a.active.generation = 1 := by
    have there := List.mem_map_of_mem (f := (·.active.generation)) (mem_attempts trying)
    rw [attempts] at there
    exact List.mem_singleton.1 there
  have past : a.active.generation < w.state.generation := by
    rw [generation, ready]
    decide
  refine ⟨w, a, run, ready, held, trying, generation, (connects.1 connecting).1, ?_⟩
  exact (leftOver 3 a trying past).2

/-- Somebody seems to connect the backend that is ready, which nobody does; and who does from then on
waits for the one who was to connect the backend that was closed. -/
theorem closed_backend_holds_up_the_next : ∃ w v : World,
    ({} : Setting).world.after? closedWhileConnecting = some w ∧ w.state = ⟨3, .ready 1 1⟩ ∧
      w.connectLock.IsHeld ∧ (∀ t a, w.outline.job t = .attempt a → a.active.generation ≠ 3) ∧
      w.connectionState = .connecting ∧
      w.after? [.ask .connect, .turn 8] = some v ∧ v.connectLock.waiters = [8] ∧
      (Move.turn 8).outcome? v = none := by
  obtain ⟨w, run, ready, held, attempts, connecting, seen⟩ := after_closedWhileConnecting
  obtain ⟨v, more, seen⟩ := Option.map_eq_some_iff.1 seen
  obtain ⟨waiters, blocked⟩ := Prod.mk.inj seen
  have locked : w.connectLock.IsHeld := by
    rw [Lock.IsHeld, held]
    exact Option.some_ne_none 3
  refine ⟨w, v, run, ready, locked, fun t a trying current => ?_, connecting, more, waiters,
    Option.isNone_iff_eq_none.1 blocked⟩
  have there := List.mem_map_of_mem (f := (·.active.generation)) (mem_attempts trying)
  rw [attempts, current] at there
  simp at there

end TunnelKeeper.Coordinator
