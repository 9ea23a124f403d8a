import TunnelKeeper.Proofs.Setups
import TunnelKeeper.Proofs.Voices

/-!
Calls to connect a tunnel. They are made one at a time, for a tunnel that is running and down, with
the token of its own registration, and the host hears of those that succeed in time. Whoever asks
to connect is told of nothing but that there is no backend.
-/

namespace TunnelKeeper.Coordinator

open World Cooperative

/-! ### Calls that are under way -/

/-- The task waits for a call to connect a tunnel. -/
def World.Dials (t : TaskId) (w : World) : Prop :=
  ∃ task a call, w.schedule.point? t = some task ∧ task.attempt? = some a ∧ a.step = .connect call

lemma Task.job_of_attempt? {task : Task} {a : Attempt} (mine : task.attempt? = some a) :
    task.job = .attempt a := by
  unfold attempt? at mine
  split at mine
  · next job => exact Option.some.inj mine ▸ job
  · cases mine

lemma Outline.Orderly.dials_alone {w : World} (h : w.outline.Orderly) {t u : TaskId}
    (mine : w.Dials t) (theirs : w.Dials u) : t = u := by
  obtain ⟨task, a, call, here, makes, step⟩ := mine
  obtain ⟨task', a', call', here', makes', step'⟩ := theirs
  exact h.alone ((outline_job here).trans (Task.job_of_attempt? makes)) (step ▸ nofun)
    ((outline_job here').trans (Task.job_of_attempt? makes')) (step' ▸ nofun)

/-! ### Tunnels and tokens -/

/-- The tunnel and the token that a call to connect is made with. -/
def Event.dial? : Event → Option (TunnelId × Token)
  | connectTunnel n given => some (n, given)
  | _ => none

def Outline.dials (c : Outline) : List (TunnelId × Token) := c.events.filterMap Event.dial?

/-- The calls to connect so far, the latest first. -/
def World.dials (w : World) : List (TunnelId × Token) :=
  (w.trace.map Prod.snd).filterMap Event.dial?

lemma World.outline_dials (w : World) : w.outline.dials = w.dials := by
  unfold Outline.dials dials outline
  rw [List.filterMap_filter]
  congr 1
  funext e
  cases e <;> rfl

/-- Only an attempt that has waited for a token calls a tunnel to connect. -/
lemma Turned.dials_cases {t : TaskId} {o : Owner} {c d : Outline} {x y : Job}
    (turned : Turned t o c x d y) :
    d.dials = c.dials ∨ ∃ a p, x = .attempt a ∧ a.step = .refresh p := by
  refine (turned.filterMap_cases Event.dial? rfl).imp_right fun ⟨e, heard, voice⟩ => ?_
  cases e with
  | connectTunnel => exact voice
  | _ => cases heard

/-- A token has been had, and the attempt goes on to connect its tunnel with it. -/
def Attempt.Gets (a : Attempt) (t : TaskId) (token : Token) (w : World) : Prop :=
  ∃ p, a.step = .refresh p ∧
    (Refresh.resume t a.active.registration p w).2 = .done (.ok token)

variable {t : TaskId} {w : World}

namespace Connect

lemma dials_finish (a : Attempt) (v : World) : (finish t a v).1.dials = v.dials := by
  rw [← outline_dials, outline_finish, Outline.endAttempt_eq]
  exact outline_dials v

lemma dials_resume {a : Attempt} {p : RefreshPoint} (here : a.step = .refresh p) :
    (resume t a w).1.dials = w.dials ∨ ∃ token, a.Gets t token w ∧
      w.state.IsCurrent a.active.generation ∧
      (resume t a w).1.dials = (a.active.tunnel, token) :: w.dials := by
  obtain ⟨active, guarded, step⟩ := a
  cases here
  have outline := (Refresh.outline_resume t active.registration p w).1
  have same : (Refresh.resume t active.registration p w).1.dials = w.dials := by
    rw [← outline_dials, outline, outline_dials]
  have state : (Refresh.resume t active.registration p w).1.state = w.state :=
    congrArg Outline.state outline
  unfold resume Attempt.Gets
  dsimp only
  split
  · left
    rw [dials_finish, ← outline_dials, outline_leaveTokenLock, outline_dials]
  · rcases resumed : Refresh.resume t active.registration p w with ⟨v, point | answer | _⟩
    · rw [resumed] at same
      exact .inl same
    · rw [resumed] at same state
      cases answer with
      | error e =>
        left
        rw [refreshed, fail, dials_finish]
        exact same
      | ok token =>
        rw [refreshed, connect]
        split
        · next current =>
          refine .inr ⟨token, ⟨p, rfl, by rw [resumed]⟩, ?_, ?_⟩
          · rw [← state]
            exact current
          · rw [← same]
            rfl
        · exact .inl ((dials_finish ..).trans same)
    · rw [resumed] at same
      exact .inl same

end Connect

lemma Guard.dials_attempting (t : TaskId) (g : Nat) (turn : Turn Attempt Result) :
    (attempting t g turn).1.dials = turn.1.dials := by
  obtain ⟨v, point | result | _⟩ := turn
  · rfl
  · rcases attempting_done t g v result with ended | next
    · rw [ended]
    · rw [next, ← outline_dials, ← outline_dials]
      rcases (outline_round g v).2 with same | ⟨-, heard⟩
      · rw [same]
      · rw [heard]
        rfl
  · rfl

namespace Task

lemma dials_report {P R : Type} (entry : Nat) (point : P → Task) (result : R → Result)
    (turn : Turn P R) : (report entry point result turn).1.dials = turn.1.dials := by
  obtain ⟨v, _ | _ | _⟩ := turn <;> rfl

lemma dials_of_attempt {task : Task} {a : Attempt} (job : task.job = .attempt a) :
    (resume t task w).1.dials = (Connect.resume t a w).1.dials := by
  rcases eq_of_attempt job with ⟨entry, rfl⟩ | rfl | ⟨g, rfl⟩
  · exact dials_report ..
  · exact congrArg World.dials (goOn_fst ..)
  · exact (congrArg World.dials (goOn_fst ..)).trans (Guard.dials_attempting ..)

end Task

/-- A call to connect is made by an attempt that has had a token, while its backend is current. -/
lemma Move.dials_cases {m : Move} {w' : World} (move : m.outcome? w = some w') :
    w'.dials = w.dials ∨ ∃ t a token, m = .turn t ∧ w.outline.job t = .attempt a ∧
      a.Gets t token w ∧ w.state.IsCurrent a.active.generation ∧
      w'.dials = (a.active.tunnel, token) :: w.dials := by
  rcases Move.cases move with ⟨t, task, d, y, rfl, here, turned, ending⟩ | ⟨-, happened⟩
  · rcases turned.dials_cases with same | ⟨a, p, job, refresh⟩
    · left
      rw [← outline_dials, ← outline_dials, ← same]
      exact congrArg (List.filterMap Event.dial?) ending.events
    · obtain ⟨task', here', -, rfl⟩ := exists_of_turn move
      cases here.symm.trans here'
      have after : (advance t task w).dials = (Connect.resume t a w).1.dials := by
        rw [advance_eq, ← Task.dials_of_attempt job]
        rfl
      rw [after]
      refine (Connect.dials_resume refresh).imp_right fun ⟨token, gets, current, dialled⟩ => ?_
      exact ⟨t, a, token, rfl, (outline_job here).trans job, gets, current, dialled⟩
  · left
    rw [← outline_dials, ← outline_dials]
    generalize w'.outline = d at happened
    cases happened <;> rfl

/-- After a run, a tunnel that was made for a registration is running and down. -/
structure World.Dialable (r : CycleId) (n : TunnelId) (v : World) (moves : List Move)
    (w : World) : Prop where
  made : v.Sometime (fun m u _ => m.Makes r n u) moves
  started : v.Sometime (fun m u _ => m.Starts n u) moves
  untold : w.stops n = 0
  down : w.isConnected n = false

/-- An attempt that has waited for a token finds its tunnel running and down, unless its backend has
been superseded. -/
lemma World.Regular.dialable {s : Setting} {moves : List Move} {a : Attempt} {p : RefreshPoint}
    (h : w.Regular) (run : s.world.after? moves = some w) (at_it : w.outline.job t = .attempt a)
    (refresh : a.step = .refresh p) (current : w.state.IsCurrent a.active.generation) :
    s.world.Dialable a.active.registration a.active.tunnel moves w := by
  have served := h.placed.served t a at_it
  have ready := served.ready current
  have running := Outline.Served.running h.owns ready
  have told := h.owns.told a.active.tunnel
  rw [running, outline_stops] at told
  have phase : w.state.phase = .ready a.active.registration a.active.tunnel :=
    congrArg BackendState.phase (BackendState.active?_eq_some_iff.1 ready)
  exact ⟨made_of_ready run phase, starts_of_begun run (served.begun h.owns), told,
    h.orderly.down t a at_it (by rw [refresh]; rfl)⟩

/-! ### Connections that are heard of -/

/-- A call to connect has succeeded, and its attempt has been neither cancelled nor superseded. -/
def Attempt.succeeds (a : Attempt) (t : TaskId) (c : Outline) : Bool :=
  a.step.success?.isSome && decide (c.state.IsCurrent a.active.generation) && !c.isCancelled t

/-- In this move, a call to connect has succeeded in time. -/
def Move.succeeds (m : Move) (w : World) : Bool :=
  match m with
  | turn t => (m.attempt? w).any (·.succeeds t w.outline)
  | _ => false

namespace Deed

variable {o : Owner} {c d : Outline} {y : Job}

/-- The host hears of a connection if the attempt succeeds, and not otherwise. -/
lemma connected_of_attempt {a : Attempt} (deed : Deed t o c (.attempt a) d y)
    (live : a.guarded = false → c.isCancelled t = false) :
    d.heard.countP Event.isConnected =
      c.heard.countP Event.isConnected + (a.succeeds t c).toNat := by
  have failed {d : Outline} (none : a.succeeds t c = false)
      (same : d.heard.countP Event.isConnected = c.heard.countP Event.isConnected) :
      d.heard.countP Event.isConnected =
        c.heard.countP Event.isConnected + (a.succeeds t c).toNat := by
    rw [none, same]
    rfl
  have unanswered (none : a.step.success? = none) : a.succeeds t c = false := by
    rw [Attempt.succeeds, none]
    rfl
  cases deed with
  | dropped _ _ checking => rcases checking with eq | ⟨p, eq⟩ | ⟨p, eq⟩ <;> cases eq
  | takeReady withHandler _ _ asked | take withHandler _ asked =>
    cases withHandler <;> cases asked
  | attemptOn _ early =>
    refine failed (unanswered ?_) rfl
    rcases early with ⟨p, early⟩ | ⟨early, -⟩ <;> rw [early] <;> rfl
  | dial _ _ _ early =>
    refine failed (unanswered ?_) rfl
    rw [early.choose_spec]
    rfl
  | attemptOver gone =>
    rw [Outline.endAttempt_eq]
    refine failed (unanswered ?_) rfl
    obtain ⟨active, guarded, step⟩ := a
    cases step with
    | connect call =>
      obtain ⟨due, _ | lasting⟩ := call
      · rfl
      · cases gone
    | _ => rfl
  | connected lasting current here uncancelled =>
    -- Nobody cancels an attempt that no guard makes, and a guard that is cancelled undoes its own.
    have succeeds : a.succeeds t c = true := by
      have uncancelled : c.isCancelled t = false := by
        cases guarded : a.guarded with
        | true => exact uncancelled guarded
        | false => exact live guarded
      rw [Attempt.succeeds, here, uncancelled, decide_eq_true current]
      rfl
    rw [Outline.endAttempt_eq, Outline.connect_eq, succeeds]
    show (Event.signal .connected :: c.heard).countP Event.isConnected = _
    exact List.countP_cons_of_pos rfl
  | connectedLate lasting late =>
    rw [Outline.endAttempt_eq, Outline.connect_eq]
    refine failed ?_ rfl
    rw [Attempt.succeeds, decide_eq_false late, Bool.and_false, Bool.false_and]
  | undo lasting _ _ cancelled =>
    rw [Outline.connect_eq]
    refine failed ?_ rfl
    rw [Attempt.succeeds, cancelled, Bool.not_true, Bool.and_false]
  | undone here =>
    rw [Outline.endAttempt_eq]
    refine failed (unanswered ?_) rfl
    rw [here.choose_spec]
    rfl

end Deed

lemma World.live_of_unguarded {a : Attempt} (back : Background w.outline)
    (at_it : w.outline.job t = .attempt a) (free : a.guarded = false) :
    w.outline.isCancelled t = false := by
  obtain ⟨task, here, job⟩ := exists_attempt at_it
  have own := outline_owner here
  have owned := (back.attempt t _ a own at_it).1
  refine Bool.eq_false_iff.2 fun cancelled => ?_
  rcases back.owner_of_cancelled cancelled own with handler | guard
  · rcases Task.eq_of_attempt job with ⟨entry, rfl⟩ | rfl | ⟨g, rfl⟩ <;> cases handler
  · cases guard.symm.trans (owned.symm.trans free)

/-- Each call that succeeds in time is heard of once. -/
lemma Move.connections {m : Move} {w' : World} (back : Background w.outline)
    (move : m.outcome? w = some w') : w'.connections = w.connections + (m.succeeds w).toNat := by
  unfold World.connections
  rw [← outline_heard, ← outline_heard]
  rcases Move.cases move with ⟨t, task, d, y, rfl, here, turned, ending⟩ | ⟨other, happened⟩
  · rw [ending.heard]
    have succeeds : (Move.turn t).succeeds w =
        task.attempt?.any fun a => a.succeeds t w.outline := by
      rw [Move.succeeds, Move.attempt?, here]
      rfl
    rw [succeeds]
    cases mine : task.attempt? with
    | none =>
      rcases turned.connected_cases with same | ⟨a, job, -⟩
      · exact same
      · cases mine.symm.trans (Task.attempt?_of_job job)
    | some a =>
      have job := Task.job_of_attempt? mine
      have live := live_of_unguarded back ((outline_job here).trans job)
      rw [job] at turned
      cases turned with
      | once deed => exact deed.connected_of_attempt live
      | andLost same deed =>
        cases same
        exact (deed.connected_of_attempt live :)
  · rw [happened.heard]
    cases m with
    | turn t => exact absurd rfl (other t)
    | _ => rfl

/-! ### What a caller is told -/

/-- The task is an operation to connect, asked for by this number. -/
def Task.connectsFor (entry : Nat) : Task → Prop
  | asked e .connect => e = entry
  | asked e (.request _) => e = entry
  | connect e _ => e = entry
  | _ => False

/-- How a turn ends, if it ends: well, or there was no backend. -/
def World.Serves {P : Type} (w : World) (turn : Turn P Result) : Prop :=
  (∃ p, turn.2 = .wait p) ∨ turn.2 = .done .ok ∨
    turn.2 = .done .notConnected ∧ w.state.active? = none

namespace Connect

lemma serves_start (guarded : Bool) (w : World) : w.Serves (start t guarded w) := by
  unfold start
  split
  · next unready => exact .inr (.inr ⟨rfl, unready⟩)
  · split
    · exact .inr (.inl rfl)
    · exact .inl ⟨_, rfl⟩

lemma serves_request (caller : String) (w : World) : w.Serves (request t caller w) := by
  unfold request
  split
  · next unready => exact .inr (.inr ⟨rfl, unready⟩)
  · split
    · exact .inr (.inl rfl)
    · exact serves_start false (w.notice _)

end Connect

namespace Task

variable {entry : Nat} {task : Task}

/-- The last event is the report of an operation, which ended well, or the operation has just been
asked for and there was no backend. -/
def Reports (entry : Nat) (task : Task) (w w' : World) : Prop :=
  ∃ result, w'.trace.head?.map Prod.snd = some (.done entry result) ∧
    (result = .ok ∨ result = .notConnected ∧ (∃ operation, task = .asked entry operation) ∧
      ∀ r n, w.state.phase ≠ .ready r n)

lemma reports_of_serves {P : Type} {point : P → Task} {turn : Turn P Result}
    {operation : Operation} (serves : w.Serves turn)
    (gone : (report entry point id turn).2 = none) :
    (asked entry operation).Reports entry w (report entry point id turn).1 := by
  obtain ⟨v, progress⟩ := turn
  rcases serves with ⟨p, rfl⟩ | rfl | ⟨rfl, unready⟩
  · cases gone
  · exact ⟨.ok, rfl, .inl rfl⟩
  · refine ⟨.notConnected, rfl, .inr ⟨rfl, ⟨operation, rfl⟩, fun r n ready => ?_⟩⟩
    rw [BackendState.active?, ready] at unready
    cases unready

lemma reports_of_connects (connects : task.connectsFor entry)
    (gone : (resume t task w).2 = none) : task.Reports entry w (resume t task w).1 := by
  cases task with
  | asked e operation =>
    cases operation with
    | connect =>
      cases connects
      exact reports_of_serves (Connect.serves_start false w) gone
    | request caller =>
      cases connects
      exact reports_of_serves (Connect.serves_request caller w) gone
    | _ => exact connects.elim
  | connect e a =>
    cases connects
    show Reports entry _ w (report entry (.connect entry) id (Connect.resume t a w)).1
    have gone : (report entry (.connect entry) id (Connect.resume t a w)).2 = none := gone
    have ended := Connect.wait_or_ok t a w
    generalize Connect.resume t a w = turn at gone ended ⊢
    obtain ⟨v, progress⟩ := turn
    rcases ended with ⟨a', rfl⟩ | rfl
    · cases gone
    · exact ⟨.ok, rfl, .inl rfl⟩
  | _ => exact connects.elim

end Task

/-- **Calls to connect come one at a time, where they belong.** At most one is under way. Each is
for a tunnel that is running and down, with the token that was had for its registration. The host
hears of a connection as often as a call has succeeded in time. And who has asked to connect is told
of no error, except that there was no backend to connect. -/
theorem connects_one_at_a_time {s : Setting} {moves : List Move} {w : World}
    (run : s.world.after? moves = some w) :
    (∀ t u, w.Dials t → w.Dials u → t = u) ∧
    (∀ m w', Move.outcome? m w = some w' → w'.dials = w.dials ∨
      ∃ t a token, m = .turn t ∧ m.attempt? w = some a ∧ a.Gets t token w ∧
        w'.dials = (a.active.tunnel, token) :: w.dials ∧
        s.world.Dialable a.active.registration a.active.tunnel moves w) ∧
    w.connections = s.world.tally Move.succeeds moves ∧
    ∀ t task entry w', w.schedule.point? t = some task → task.connectsFor entry →
      (Move.turn t).outcome? w = some w' → w'.schedule.point? t = none →
        task.Reports entry w w' := by
  have regular : w.Regular := Reaches.regular ⟨moves, run⟩
  refine ⟨fun t u => regular.orderly.dials_alone, fun m w' move => ?_, ?_, ?_⟩
  · refine (Move.dials_cases move).imp_right ?_
    rintro ⟨t, a, token, rfl, at_it, gets, current, dialled⟩
    have ⟨p, refresh, _⟩ := gets
    exact ⟨t, a, token, rfl, attempt?_turn at_it, gets, dialled,
      regular.dialable run at_it refresh current⟩
  · have counted := eq_add_tally (P := Move.succeeds) (I := fun v => Background v.outline)
      (f := World.connections) (fun move back => back.step (Move.step move))
      (fun move back => Move.connections back move) run s.background
    rw [counted]
    exact Nat.zero_add _
  · intro t task entry w' here connects turn gone
    obtain ⟨task', here', -, rfl⟩ := exists_of_turn turn
    cases here.symm.trans here'
    have gone : (Task.resume t task w).2 = none := (point?_advance t task w).symm.trans gone
    have reports := Task.reports_of_connects connects gone
    rw [advance_eq]
    exact reports

/-- Once its connection has been lost, the guard calls the tunnel of the first backend to connect
again. -/
theorem reconnecting_dials : ∃ v w : World,
    ({} : Setting).world.after? (firstBackend ++ reconnecting.dropLast) = some v ∧
      (Move.turn 4).outcome? v = some w ∧ v.connections = 1 ∧
      ({} : Setting).world.Dialable 0 0 (firstBackend ++ reconnecting.dropLast) v := by
  have seen : (({} : Setting).world.after? (firstBackend ++ reconnecting.dropLast)).bind (fun v =>
      ((Move.turn 4).outcome? v).map fun w =>
        (v.dials.length, w.dials.length, ((Move.turn 4).attempt? v).map (·.active))) =
      some (1, 2, some ⟨1, 0, 0⟩) := rfl
  obtain ⟨v, run, seen⟩ := Option.bind_eq_some_iff.1 seen
  obtain ⟨w, turn, seen⟩ := Option.map_eq_some_iff.1 seen
  simp only [Prod.mk.injEq] at seen
  obtain ⟨before, after, active⟩ := seen
  obtain ⟨-, dials, connections, -⟩ := connects_one_at_a_time run
  refine ⟨v, w, run, turn, connections.trans rfl, ?_⟩
  rcases dials _ w turn with same | ⟨t, a, token, -, makes, -, -, dialable⟩
  · rw [same, before] at after
    cases after
  · rw [makes] at active
    have active : a.active = ⟨1, 0, 0⟩ := Option.some.inj active
    rw [active] at dialable
    exact dialable

end TunnelKeeper.Coordinator
