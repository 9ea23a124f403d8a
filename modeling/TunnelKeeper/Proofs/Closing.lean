import TunnelKeeper.Proofs.Cancellation
import TunnelKeeper.Proofs.Points

/-!
After the backend has been closed. The handler and the guard have been cancelled, and loads, setups
and attempts to connect belong to a generation that is past, so none of them brings a backend back.
A call that was made before and has yet to begin its load does: it does not see that the backend has
been closed since.
-/

namespace TunnelKeeper.Coordinator

open World Cooperative

/-! ### Settled worlds -/

/-- Something is under way in the task: a call, a pause within an operation, or a TLS context that
is built. The background tasks may sleep. -/
def Task.pends : Task → Bool
  | handler (.sleep _) => false
  | guard _ (.sleep _) => false
  | task =>
    match task.wait with
    | .time _ => true
    | .build => true
    | _ => false

namespace World

/-- Nobody can go on, and nothing is under way that anybody waits for. -/
def Settled (w : World) : Prop :=
  ∀ t task, w.schedule.point? t = some task → task.pends = false ∧ w.ready t task = false

/-- Whether all tasks that are there wait for something that does not come by itself. -/
def settled (w : World) : Bool :=
  w.schedule.tasks.all fun (t, task) => !task.pends && !w.ready t task

lemma settled_of {w : World} (all : w.settled = true) : w.Settled := by
  intro t task here
  have both := List.all_eq_true.1 all (t, task) (Schedule.mem_of_point? here)
  simpa using both

end World

/-! ### Who begins a load -/

/-- If nothing is loaded, the task begins a load in its turn, for a caller or after a start. -/
def Task.beginsLoad : Task → Bool
  | asked _ .load => true
  | asked _ .check => true
  | startLoad => true
  | check _ (.settle _) => true
  | _ => false

/-- In this move, a load begins for a caller or after a start if nothing is loaded. -/
def Move.beginsLoad (m : Move) (w : World) : Bool :=
  match m with
  | turn t => (w.schedule.point? t).any Task.beginsLoad
  | _ => false

lemma Deed.of_begun {t : TaskId} {o : Owner} {c d : Outline} {x y : Job} (deed : Deed t o c x d y)
    (idle : c.state.phase.Idle) (begun : d.state = c.state.beginLoad.2) :
    x = .rest ∧ (∃ p, y = .load p) ∧ (o = .handler → c.isCancelled t = false) := by
  rw [BackendState.beginLoad_of_idle idle] at begun
  have phase {s : State} (begun : s = ⟨c.state.generation + 1, .registering⟩) :
      s.phase = .registering := congrArg BackendState.phase begun
  have past {s : State} (begun : s = ⟨c.state.generation + 1, .registering⟩) :
      s.generation ≠ c.state.generation := begun ▸ Nat.succ_ne_self _
  cases deed with
  | begin _ live => exact ⟨rfl, ⟨_, rfl⟩, live⟩
  | loadFailed | registered => cases phase begun
  | stalled => exact absurd (BackendState.setStalled_generation _ _) (past begun)
  | up _ autostart => cases autostart <;> cases phase begun
  | takeReady =>
    rw [Outline.take_eq] at begun
    cases phase begun
  | take =>
    rw [Outline.hearIf_eq, Outline.take_eq] at begun
    cases phase begun
  | attemptOver | undone =>
    rw [Outline.endAttempt_eq] at begun
    exact absurd rfl (past begun)
  | connected lasting | connectedLate lasting =>
    rw [Outline.endAttempt_eq, Outline.connect_eq] at begun
    exact absurd rfl (past begun)
  | undo lasting =>
    rw [Outline.connect_eq] at begun
    exact absurd rfl (past begun)
  | _ => exact absurd rfl (past begun)

namespace Check

lemma exists_of_loading {goOn : LoadPoint → CheckPoint} {outcome : CertificateCheck}
    {turn : Turn LoadPoint Unit} {q : CheckPoint} (came : (loading goOn outcome turn).2 = .wait q) :
    ∃ p, q = goOn p := by
  obtain ⟨v, p | _ | _⟩ := turn
  · cases came
    exact ⟨p, rfl⟩
  · cases came
  · cases came

lemma point_of_tearingDown {turn : Turn TeardownPoint Unit} {q : CheckPoint}
    (came : (tearingDown turn).2 = .wait q) : (∃ p, q = .teardown p) ∨ ∃ due, q = .settle due := by
  obtain ⟨v, p | _ | _⟩ := turn
  · cases came
    exact .inl ⟨p, rfl⟩
  · cases came
    exact .inr ⟨_, rfl⟩
  · cases came

/-- Once a certificate has been issued, the check takes the backend down and pauses. -/
lemma point_of_issue {c : CycleId} {expire : Option Instant} {checked : Instant}
    {call : Call (Except CertificateError Issue)} {w : World} {q : CheckPoint}
    (came : (resume (.issue c expire checked call) w).2 = .wait q) :
    (∃ p, q = .teardown p) ∨ ∃ due, q = .settle due := by
  rw [resume] at came
  split at came
  · exact point_of_tearingDown came
  · unfold failed at came
    split at came <;> cases came

end Check

variable {w w' : World} {t : TaskId}

namespace Task

lemma beginsLoad_of_load {task next : Task} {p : LoadPoint}
    (came : (resume t task w).2 = some next) (job : next.job = .load p) (rest : task.job = .rest)
    (other : task.owner ≠ .handler) : task.beginsLoad = true := by
  cases task with
  | asked entry operation =>
    cases operation with
    | load | check => rfl
    | start => cases came
    | connect | request | close | stop | disconnect | refresh | lookUp =>
      obtain ⟨q, rfl⟩ := exists_point_of_report came
      cases job
  | check entry q =>
    obtain ⟨q', goesOn, rfl, -⟩ := exists_wait_of_report came
    cases q with
    | settle due => rfl
    | issue =>
      rcases Check.point_of_issue goesOn with ⟨q, rfl⟩ | ⟨due, rfl⟩ <;> cases job
    | load | reload | teardown => cases rest
  | startLoad => rfl
  | handler => exact absurd rfl other
  | guard g q =>
    obtain ⟨q', rfl⟩ := exists_point_of_goOn came
    cases q' <;> cases job
  | refresh | lookUp =>
    obtain ⟨q, rfl⟩ := exists_point_of_report came
    cases job
  | autostart =>
    obtain ⟨q, rfl⟩ := exists_point_of_goOn came
    cases job
  | load | teardown | connect | disconnect | detachedLoad | setup | autoconnect => cases rest

end Task

/-- A load begins for a caller, or the handler begins it, which has not been cancelled. -/
lemma Move.begins_cases {m : Move} (move : m.outcome? w = some w') (begins : w.BeginsLoad w') :
    m.beginsLoad w = true ∨
      ∃ t, w.outline.owner t = some .handler ∧ w.isCancelled t = false := by
  obtain ⟨idle, begun⟩ := begins
  rcases Move.cases move with ⟨t, task, d, y, rfl, here, turned, ending⟩ | ⟨-, happened⟩
  · have begun : d.state = w.outline.state.beginLoad.2 := ending.state.symm.trans begun
    cases turned with
    | andLost attempt deed =>
      obtain ⟨rest, -⟩ := deed.of_begun idle begun
      cases rest.symm.trans attempt
    | once deed =>
      obtain ⟨rest, ⟨p, rfl⟩, live⟩ := deed.of_begun idle begun
      by_cases own : task.owner = .handler
      · exact .inr ⟨t, own ▸ outline_owner here, live own⟩
      · left
        obtain ⟨task', here', -, rfl⟩ := exists_of_turn move
        cases here.symm.trans here'
        have job : jobOf (Task.resume t task w).2 = .load p := by
          rw [← point?_advance]
          exact ending.job
        rw [beginsLoad, here]
        cases came : (Task.resume t task w).2 with
        | none =>
          rw [came] at job
          cases job
        | some next =>
          rw [came] at job
          exact Task.beginsLoad_of_load came job rest own
  · have same : w'.state = w.state := happened.same_slots.2.2
    rw [same, BackendState.beginLoad_of_idle idle] at begun
    exact absurd (congrArg BackendState.generation begun).symm (Nat.succ_ne_self _)

/-! ### Calls that have yet to begin a load -/

/-- The task is a caller's that may still begin a load. -/
def Task.mayLoad : Task → Bool
  | asked _ .load => true
  | asked _ .start => true
  | asked _ .check => true
  | startLoad => true
  | check _ (.issue _ _ _ _) => true
  | check _ (.teardown _) => true
  | check _ (.settle _) => true
  | _ => false

/-- A load, a start or a check is asked for. -/
def Move.asksLoad : Move → Bool
  | ask .load => true
  | ask .start => true
  | ask .check => true
  | _ => false

lemma Task.mayLoad_of_beginsLoad {task : Task} (begins : task.beginsLoad = true) :
    task.mayLoad = true := by
  unfold beginsLoad at begins
  split at begins
  · rfl
  · rfl
  · rfl
  · rfl
  · cases begins

lemma Task.mayLoad_before {task next : Task} (came : (resume t task w).2 = some next)
    (may : next.mayLoad = true) : task.mayLoad = true := by
  cases task with
  | asked entry operation =>
    cases operation with
    | load | start | check => rfl
    | connect | request | close | stop | disconnect | refresh | lookUp =>
      obtain ⟨q, rfl⟩ := exists_point_of_report came
      cases may
  | check entry q =>
    obtain ⟨q', goesOn, rfl, -⟩ := exists_wait_of_report came
    cases q with
    | issue | teardown | settle => rfl
    | load | reload =>
      obtain ⟨p, rfl⟩ := Check.exists_of_loading goesOn
      cases may
  | load | teardown | connect | disconnect | refresh | lookUp =>
    obtain ⟨q, rfl⟩ := exists_point_of_report came
    cases may
  | startLoad => rfl
  | detachedLoad | setup | autostart | autoconnect | handler | guard =>
    obtain ⟨q, rfl⟩ := exists_point_of_goOn came
    cases may

/-- No call is under way that may still begin a load. -/
def World.NobodyLoads (w : World) : Prop :=
  ∀ t task, w.schedule.point? t = some task → task.mayLoad = false

namespace World.NobodyLoads

variable {m : Move}

lemma move (h : w.NobodyLoads) (move : m.outcome? w = some w') (quiet : m.asksLoad = false) :
    w'.NobodyLoads := by
  intro t task there
  rcases Move.point?_before move there with
    before | rfl | new | ⟨entry, operation, rfl, rfl⟩ | ⟨u, entry, starting, -⟩
  · exact h t task before
  · obtain ⟨task', here, -, rfl⟩ := exists_of_turn move
    have came := (point?_advance t task' w).symm.trans there
    have idle := h t task' here
    exact Bool.eq_false_iff.2 fun may => by
      cases idle.symm.trans (Task.mayLoad_before came may)
  · unfold Task.isNew at new
    split at new
    · rfl
    · rfl
    · rfl
    · rfl
    · cases new
  · cases operation <;> first | rfl | cases quiet
  · cases h u _ starting

lemma beginsLoad (h : w.NobodyLoads) (m : Move) : m.beginsLoad w = false := by
  refine Bool.eq_false_iff.2 fun begins => ?_
  unfold Move.beginsLoad at begins
  split at begins
  · obtain ⟨task, here, begins⟩ := (Option.any_eq_true ..).1 begins
    cases (h _ task here).symm.trans (Task.mayLoad_of_beginsLoad begins)
  · cases begins

/-- Nobody begins a load as long as no load, start or check is asked for. -/
lemma throughout (h : w.NobodyLoads) {moves : List Move}
    (quiet : ∀ m ∈ moves, m.asksLoad = false) :
    w.Throughout (fun m v _ => m.beginsLoad v = false) moves := by
  induction moves generalizing w with
  | nil => trivial
  | cons m moves ih =>
    intro v first
    have here := quiet m List.mem_cons_self
    exact ⟨h.beginsLoad m, ih (h.move first here) fun m' there =>
      quiet m' (List.mem_cons_of_mem m there)⟩

end World.NobodyLoads

/-! ### The backend stays closed -/

/-- Nothing is loaded, nobody is in a slot, and once all is settled, neither a handler nor a guard
is there any more. -/
structure World.Closed (w : World) : Prop where
  absent : w.state.phase = .absent
  unregistered : w.loaded? = none
  handler : w.handlerSlot.isRunning = false
  guard : w.guardSlot.isRunning = false
  alone : w.Settled → ∀ t task, w.schedule.point? t = some task → task.owner = .caller

namespace Outline.Quiet

lemma of_closing {m : Move} (move : m.outcome? w = some w') (closes : m.Closes w) :
    w'.outline.Quiet := by
  obtain ⟨t, entry, operation, rfl, here, closing⟩ := closes
  obtain ⟨task, d, y, here', turned, ending⟩ := turn_cases move
  cases here.symm.trans here'
  have at_it : (Task.asked entry operation).job = .close := Operation.job_eq_close.2 closing
  rw [at_it] at turned
  exact (of_close turned).ending ending

lemma cancelled (h : w.outline.Quiet) (back : Background w.outline)
    (own : w.outline.owner t = some .handler) : w.isCancelled t = true := by
  rcases back.handler.known t _ own rfl with there | cancelled
  · cases h.2.1.symm.trans there
  · exact Bool.or_eq_true_iff.2 (.inl (decide_eq_true cancelled))

lemma cancelled_guard (h : w.outline.Quiet) (back : Background w.outline) {g : Nat}
    (own : w.outline.owner t = some (.guard g)) : w.isCancelled t = true := by
  rcases back.inside_or_cancelled own rfl with there | cancelled
  · cases h.2.2.symm.trans there
  · exact cancelled

lemma move {m : Move} (h : w.outline.Quiet) (back : Background w.outline)
    (move : m.outcome? w = some w') (quiet : m.beginsLoad w = false) : w'.outline.Quiet := by
  refine h.step (Move.step move) fun begun => ?_
  have idle : w.state.phase.Idle := by
    rw [show w.state.phase = .absent from h.1]
    trivial
  rcases Move.begins_cases move ⟨idle, begun⟩ with begins | ⟨t, own, live⟩
  · cases quiet.symm.trans begins
  · cases live.symm.trans (h.cancelled back own)

/-- A background task that has been cancelled goes on, unless a call holds it up. -/
lemma owner_of_settled (h : w.outline.Quiet) (back : Background w.outline) (settled : w.Settled)
    {task : Task} (here : w.schedule.point? t = some task) : task.owner = .caller := by
  obtain ⟨still, waits⟩ := settled t task here
  obtain ⟨unarrived, unheeded⟩ := Bool.or_eq_false_iff.1 waits
  have own := outline_owner here
  have deaf (cancelled : w.isCancelled t = true) : task.heedsCancel = false := by
    rwa [cancelled, Bool.and_true] at unheeded
  cases task with
  | handler p =>
    have deaf := deaf (h.cancelled back own)
    cases p with
    | start => cases unarrived
    | sleep | check => cases deaf
  | guard g p =>
    have deaf := deaf (h.cancelled_guard back own)
    cases p with
    | start => cases unarrived
    | watch | sleep => cases deaf
    | attempt a =>
      have guarded := (back.attempt t _ a own (outline_job here)).1
      obtain ⟨active, _, step⟩ := a
      cases guarded
      cases step with
      | lock | refresh => cases deaf
      | connect | undo => cases still
  | _ => rfl

lemma closed (h : w.outline.Quiet) (back : Background w.outline) : w.Closed where
  absent := h.1
  unregistered := by
    unfold loaded?
    rw [show w.state.phase = .absent from h.1]
    rfl
  handler := congrArg Option.isSome h.2.1
  guard := congrArg Option.isSome h.2.2
  alone settled _ _ here := h.owner_of_settled back settled here

end Outline.Quiet

/-- **Closing the backend is final** as far as nobody begins a load. Whatever else was under way,
the backend stays away, and so it does if no call was under way that might still begin a load, and no
load, start or check is asked for. -/
theorem closing_is_final {s : Setting} {m : Move} {w w' v : World} {moves : List Move}
    (before : Reaches s.world w) (move : m.outcome? w = some w') (closes : m.Closes w)
    (run : w'.after? moves = some v) :
    (w'.Throughout (fun m u _ => m.beginsLoad u = false) moves → v.Closed) ∧
      (w.NobodyLoads → (∀ m ∈ moves, m.asksLoad = false) → v.Closed) := by
  have closed (quiet : w'.Throughout (fun m u _ => m.beginsLoad u = false) moves) : v.Closed := by
    obtain ⟨back, still⟩ := quiet.keeps (I := fun u => Background u.outline ∧ u.outline.Quiet)
      (fun move quiet h => ⟨h.1.step (Move.step move), h.2.move h.1 move quiet⟩) run
      ⟨before.background.step (Move.step move), .of_closing move closes⟩
    exact still.closed back
  refine ⟨closed, fun nobody unasked => closed ?_⟩
  obtain ⟨t, entry, operation, rfl, -⟩ := closes
  exact (nobody.move move rfl).throughout unasked

/-- The first certificate that is issued lasts for ten days only. -/
def Setting.shortLived : Setting where
  scripts := { issue :=
    { entries := [{ answer := .ok { validMillis := 864000000 } }], usual := .ok {} } }

/-- A first backend comes up, and nobody connects it. -/
def firstLoad : List Move := firstBackend.take 11

/-- In the first night the handler renews the certificate: it has one issued, takes the backend down
and pauses. -/
def firstNight : List Move := [.time 86401000, .turn 1, .turn 1, .turn 1]

/-- Closed in that pause, the backend stays away. -/
theorem closed_while_renewing : ∃ w w' v : World,
    Setting.shortLived.world.after? (firstLoad ++ firstNight ++ [.ask .close]) = some w ∧
      (Move.turn 3).outcome? w = some w' ∧ w'.after? [.turn 1] = some v ∧
      w.NobodyLoads ∧ v.Settled ∧ v.Closed := by
  have seen : (Setting.shortLived.world.after?
      (firstLoad ++ firstNight ++ [.ask .close])).bind (fun w =>
        ((Move.turn 3).outcome? w).bind fun w' => (w'.after? [.turn 1]).map fun v =>
          (w.schedule.point? 3, w.schedule.tasks.all fun x => !x.2.mayLoad, v.settled)) =
      some (some (.asked 1 .close), true, true) := rfl
  obtain ⟨w, run, seen⟩ := Option.bind_eq_some_iff.1 seen
  obtain ⟨w', move, seen⟩ := Option.bind_eq_some_iff.1 seen
  obtain ⟨v, more, seen⟩ := Option.map_eq_some_iff.1 seen
  simp only [Prod.mk.injEq] at seen
  obtain ⟨here, nobody, settled⟩ := seen
  have nobody : w.NobodyLoads := fun t task there => by
    simpa using List.all_eq_true.1 nobody (t, task) (Schedule.mem_of_point? there)
  have closes : (Move.turn 3).Closes w := ⟨3, 1, .close, rfl, here, .inl rfl⟩
  refine ⟨w, w', v, run, move, more, nobody, settled_of settled, ?_⟩
  exact (closing_is_final ⟨_, run⟩ move closes more).2 nobody (by decide)

/-- Somebody has checked the certificate, which is renewed; the backend is closed in the pause. -/
def firstCheck : List Move :=
  firstLoad ++ [.ask .check, .turn 3, .turn 3, .turn 3, .time 1000, .ask .close]

/-- After the pause, the check loads the backend again. -/
def loadedAgain : List Move :=
  [.turn 1, .time 5000, .turn 3, .turn 5, .turn 3, .turn 3, .turn 6, .turn 6, .build, .turn 6,
    .turn 6]

/-- Though nobody has asked for that since it was closed, the backend is there again. -/
theorem loaded_after_close : ∃ w w' v : World,
    Setting.shortLived.world.after? firstCheck = some w ∧ (Move.turn 4).outcome? w = some w' ∧
      (Move.turn 4).Closes w ∧ w'.after? loadedAgain = some v ∧
      (∀ m ∈ loadedAgain, m.asksLoad = false) ∧ v.Settled ∧
      v.state.phase = .ready 1 1 ∧ v.handlerSlot.isRunning = true := by
  have seen : (Setting.shortLived.world.after? firstCheck).bind (fun w =>
      ((Move.turn 4).outcome? w).bind fun w' => (w'.after? loadedAgain).map fun v =>
        (w.schedule.point? 4, v.settled, v.state.phase, v.handlerSlot.isRunning)) =
      some (some (.asked 2 .close), true, .ready 1 1, true) := rfl
  obtain ⟨w, run, seen⟩ := Option.bind_eq_some_iff.1 seen
  obtain ⟨w', move, seen⟩ := Option.bind_eq_some_iff.1 seen
  obtain ⟨v, more, seen⟩ := Option.map_eq_some_iff.1 seen
  simp only [Prod.mk.injEq] at seen
  obtain ⟨here, settled, ready, running⟩ := seen
  exact ⟨w, w', v, run, move, ⟨4, 2, .close, rfl, here, .inl rfl⟩, more, by decide,
    settled_of settled, ready, running⟩

end TunnelKeeper.Coordinator
