import TunnelKeeper.Proofs.Program

/-!
What one move does to the outline of a world. In its turn a task does the deeds of its program and
comes to another job, or it is over; all other moves touch little or nothing.
-/

namespace TunnelKeeper.Coordinator

open World Cooperative

variable (t : TaskId)

/-! ### The background tasks -/

lemma Check.loading_fst (goOn : LoadPoint → CheckPoint) (outcome : CertificateCheck)
    (turn : Turn LoadPoint Unit) : (loading goOn outcome turn).1 = turn.1 := by
  obtain ⟨v, _ | _ | _⟩ := turn <;> rfl

namespace Handler

lemma outline_night (w : World) :
    (night w).1.outline = w.outline ∧ (night w).2.job HandlerPoint.job = .rest := by
  unfold night
  dsimp only
  split
  · exact ⟨rfl, rfl⟩
  · exact ⟨rfl, rfl⟩

lemma deed_checking {x : Job} {c : Outline} (turn : Turn CheckPoint CertificateCheck)
    (deed : Deed t .handler c x turn.1.outline (turn.2.job CheckPoint.job)) :
    Deed t .handler c x (checking turn).1.outline ((checking turn).2.job HandlerPoint.job) := by
  obtain ⟨w, progress⟩ := turn
  cases progress with
  | wait p => exact deed
  | done outcome =>
    unfold checking
    rw [(outline_night w).1, (outline_night w).2]
    exact deed
  | panic => exact deed

lemma deed_resume (p : HandlerPoint) (w : World) :
    Deed t .handler w.outline p.job (resume t p w).1.outline
      ((resume t p w).2.job HandlerPoint.job) := by
  cases p with
  | start =>
    unfold resume
    dsimp only
    rw [(outline_night w).1, (outline_night w).2]
    exact .rest
  | sleep due =>
    unfold resume
    dsimp only
    split
    · exact .rest
    · next live =>
      exact deed_checking t _ (Check.deed_start t .handler rfl w fun _ => Bool.eq_false_iff.2 live)
  | check p =>
    unfold resume
    dsimp only
    split
    · next cancelled => exact .dropped rfl cancelled p.job_cases
    · next live =>
      exact deed_checking t _
        (Check.deed_resume t .handler rfl p w fun _ => Bool.eq_false_iff.2 live)

lemma cancelled_of_done {p : HandlerPoint} {w : World}
    (ended : (resume t p w).2 = .done ()) :
    w.isCancelled t = true := by
  have night_ne (v : World) : (night v).2 ≠ .done () := by
    unfold night
    dsimp only
    split <;> exact fun h => by cases h
  have checking_ne (turn : Turn CheckPoint CertificateCheck) : (checking turn).2 ≠ .done () := by
    obtain ⟨v, progress⟩ := turn
    cases progress with
    | wait p => exact fun h => by cases h
    | done outcome => exact night_ne v
    | panic => exact fun h => by cases h
  by_contra live
  cases p with
  | start => exact night_ne w ended
  | sleep due =>
    simp only [resume, if_neg live] at ended
    exact checking_ne _ ended
  | check p =>
    simp only [resume, if_neg live] at ended
    exact checking_ne _ ended

end Handler

namespace Guard

variable (g : Nat)

lemma outline_round (w : World) :
    (round g w).2.job GuardPoint.job = .rest ∧
      ((round g w).1.outline = w.outline ∨
        w.state.activeFor? g ≠ none ∧
          (round g w).1.outline = w.outline.hear (.signal .disconnected)) := by
  unfold round
  split
  · exact ⟨rfl, .inl rfl⟩
  · next active here =>
    split
    · exact ⟨rfl, .inl rfl⟩
    · exact ⟨rfl, .inr ⟨here ▸ Option.some_ne_none active, rfl⟩⟩

lemma deed_round (w : World) :
    Deed t (.guard g) w.outline .rest (round g w).1.outline
      ((round g w).2.job GuardPoint.job) := by
  obtain ⟨job, same | ⟨watched, heard⟩⟩ := outline_round g w
  · rw [job, same]
    exact .rest
  · rw [job, heard]
    exact .lost rfl (.inr watched)

/-- After an attempt to connect, the guard is over or in the next round. -/
lemma attempting_done (w : World) (result : Result) :
    attempting t g (w, .done result) = (w, .done ()) ∨
      attempting t g (w, .done result) = round g w := by
  unfold attempting
  split
  · next h => cases h
  · next h => exact .inl (by cases h; rfl)
  · next h =>
    cases h
    split
    · exact .inl rfl
    · exact .inr rfl
  · next h => cases h

lemma turned_attempting {c : Outline} (a : Attempt) (turn : Turn Attempt Result)
    (deed : Deed t (.guard g) c (.attempt a) turn.1.outline (turn.2.job .attempt)) :
    Turned t (.guard g) c (.attempt a) (attempting t g turn).1.outline
      ((attempting t g turn).2.job GuardPoint.job) := by
  obtain ⟨w, progress⟩ := turn
  cases progress with
  | wait p => exact .once deed
  | done result =>
    rcases attempting_done t g w result with ended | next
    · rw [ended]
      exact .once deed
    · rw [next, (outline_round g w).1]
      rcases (outline_round g w).2 with same | ⟨watched, heard⟩
      · rw [same]
        exact .once deed
      · rw [heard]
        exact .andLost rfl deed rfl watched
  | panic => exact .once deed

lemma turned_resume (p : GuardPoint) (w : World) :
    Turned t (.guard g) w.outline p.job (resume t g p w).1.outline
      ((resume t g p w).2.job GuardPoint.job) := by
  cases p with
  | start => exact .once (deed_round t g w)
  | watch n =>
    unfold resume
    dsimp only
    split
    · exact .once .rest
    · next live => exact .once (.lost rfl (.inl (Bool.eq_false_iff.2 live)))
  | sleep due =>
    unfold resume
    dsimp only
    split
    · exact .once .rest
    · next live =>
      unfold Connect.start
      split
      · exact .once .rest
      · next active here =>
        split
        · rcases attempting_done t g w .ok with ended | next
          · rw [ended]
            exact .once .rest
          · rw [next]
            exact .once (deed_round t g w)
        · exact .once (.queue (a := ⟨active, true, .lock⟩) here rfl rfl
            fun _ => Bool.eq_false_iff.2 live)
  | attempt a => exact turned_attempting t g a _ (Connect.deed_resume t (.guard g) a w)

lemma gone_of_round {w : World} (ended : ∀ p, (round g w).2 ≠ .wait p) :
    w.state.activeFor? g = none := by
  by_contra there
  obtain ⟨active, there⟩ := Option.ne_none_iff_exists'.1 there
  simp only [round, there] at ended
  split at ended
  · exact ended _ rfl
  · exact ended _ rfl

lemma over_of_attempting {turn : Turn Attempt Result}
    (ok : (∃ a, turn.2 = .wait a) ∨ turn.2 = .done .ok)
    (ended : ∀ p, (attempting t g turn).2 ≠ .wait p) :
    turn.1.isCancelled t = true ∨ turn.1.state.activeFor? g = none := by
  obtain ⟨w, progress⟩ := turn
  obtain ⟨a, rfl : progress = _⟩ | (rfl : progress = _) := ok
  · exact absurd rfl (ended _)
  · by_cases cancelled : w.isCancelled t = true
    · exact .inl cancelled
    · simp only [attempting, if_neg cancelled] at ended
      exact .inr (gone_of_round g ended)

/-- The guard ends when it is cancelled, or when its backend is gone. -/
lemma over_of_resume {p : GuardPoint} {w : World}
    (ended : ∀ p', (resume t g p w).2 ≠ .wait p') :
    w.isCancelled t = true ∨ w.state.activeFor? g = none := by
  by_cases cancelled : w.isCancelled t = true
  · exact .inl cancelled
  cases p with
  | start => exact .inr (gone_of_round g ended)
  | watch n =>
    simp only [resume, if_neg cancelled] at ended
    exact absurd rfl (ended _)
  | sleep due =>
    simp only [resume, if_neg cancelled, Connect.start] at ended
    split at ended
    · next none =>
      right
      unfold BackendState.activeFor?
      rw [none]
      rfl
    · split at ended
      · exact over_of_attempting t g (.inr rfl) ended
      · exact absurd rfl (ended _)
  | attempt a =>
    obtain ⟨state, same⟩ := (Connect.deed_resume t (.guard g) a w).attempt_keeps
    have ended := over_of_attempting t g (Connect.wait_or_ok t a w) ended
    rwa [show (Connect.resume t a w).1.isCancelled t = w.isCancelled t from congrFun same t,
      show (Connect.resume t a w).1.state = w.state from state] at ended

end Guard

/-! ### Tasks -/

namespace Task

variable {P R : Type} (o : Owner)

/-- The turn of a task by the outline before it, and the world and the point after it. -/
lemma deed_report {entry : Nat} {point : P → Task} {result : R → Result} {f : P → Job}
    (at_point : ∀ p, (point p).job = f p) {c : Outline} {x : Job} (turn : Turn P R)
    (deed : Deed t o c x turn.1.outline (turn.2.job f)) :
    Deed t o c x (report entry point result turn).1.outline
      (jobOf (report entry point result turn).2) := by
  obtain ⟨w, progress⟩ := turn
  cases progress with
  | wait p =>
    show Deed t o c x w.outline (point p).job
    rw [at_point p]
    exact deed
  | done r => exact deed
  | panic => exact deed

lemma turned_goOn {point : P → Task} {f : P → Job} (at_point : ∀ p, (point p).job = f p)
    {c : Outline} {x : Job} (turn : Turn P R)
    (turned : Turned t o c x turn.1.outline (turn.2.job f)) :
    Turned t o c x (goOn point turn).1.outline (jobOf (goOn point turn).2) := by
  obtain ⟨w, progress⟩ := turn
  cases progress with
  | wait p =>
    show Turned t o c x w.outline (point p).job
    rw [at_point p]
    exact turned
  | done r => exact turned
  | panic => exact turned

lemma deed_begin (entry : Nat) (operation : Operation) (w : World) :
    Deed t .caller w.outline operation.job (begin t entry operation w).1.outline
      (jobOf (begin t entry operation w).2) := by
  have same {P R : Type} {point : P → Task} {result : R → Result}
      (at_point : ∀ p, (point p).job = .rest) (turn : Turn P R)
      (outline : turn.1.outline = w.outline) :
      Deed t .caller w.outline .rest (report entry point result turn).1.outline
        (jobOf (report entry point result turn).2) :=
    deed_report t .caller (f := fun _ => .rest) at_point turn <| by
      obtain ⟨v, progress⟩ := turn
      cases progress <;> exact outline ▸ .rest
  have live : Owner.caller = .handler → w.isCancelled t = false := fun h => by cases h
  cases operation with
  | load => exact deed_report t .caller (fun _ => rfl) _ (Load.deed_start t .caller rfl w live)
  | start =>
    unfold begin
    dsimp only
    rw [show ((w.spawn .startLoad).record (.done entry .ok)).outline = _ from
      w.outline_spawn .startLoad]
    exact .delegate rfl
  | close =>
    exact deed_report t .caller (fun _ => rfl) _ (Teardown.deed_start t .caller true rfl rfl w)
  | stop =>
    exact deed_report t .caller (fun _ => rfl) _ (Teardown.deed_start t .caller true rfl rfl w)
  | connect =>
    exact deed_report t .caller (fun _ => rfl) _
      (Connect.deed_start t .caller false rfl w fun h => by cases h)
  | disconnect => exact deed_report t .caller (fun _ => rfl) _ (Disconnect.deed_start t .caller w)
  | request caller =>
    exact deed_report t .caller (fun _ => rfl) _ (Connect.deed_request t .caller caller rfl w)
  | check => exact deed_report t .caller (fun _ => rfl) _ (Check.deed_start t .caller rfl w live)
  | refresh c => exact same (fun _ => rfl) _ rfl
  | lookUp c => exact same (fun _ => rfl) _ rfl

/-- The turn of a task. -/
theorem turned_resume (task : Task) (w : World) :
    Turned t task.owner w.outline task.job (resume t task w).1.outline
      (jobOf (resume t task w).2) := by
  have looked (entry : Nat) {P R : Type} {point : P → Task} {result : R → Result}
      (at_point : ∀ p, (point p).job = .rest) (turn : Turn P R)
      (outline : turn.1.outline = w.outline) :
      Turned t .caller w.outline .rest (report entry point result turn).1.outline
        (jobOf (report entry point result turn).2) :=
    .once <| deed_report t .caller (f := fun _ => .rest) at_point turn <| by
      obtain ⟨v, progress⟩ := turn
      cases progress <;> exact outline ▸ .rest
  have live : Owner.caller = .handler → w.isCancelled t = false := fun h => by cases h
  cases task with
  | asked entry operation => exact .once (deed_begin t entry operation w)
  | load entry p =>
    exact .once (deed_report t .caller (fun _ => rfl) _ (Load.deed_resume t .caller p w))
  | teardown entry p =>
    exact .once (deed_report t .caller (fun _ => rfl) _ (Teardown.deed_resume t .caller p w))
  | connect entry a =>
    exact .once (deed_report t .caller (fun _ => rfl) _ (Connect.deed_resume t .caller a w))
  | disconnect entry p =>
    exact .once (deed_report t .caller (fun _ => rfl) _ (Disconnect.deed_resume t .caller p w))
  | check entry p =>
    exact .once (deed_report t .caller (fun _ => rfl) _ (Check.deed_resume t .caller rfl p w live))
  | refresh entry c p => exact looked entry (fun _ => rfl) _ (Refresh.outline_resume t c p w).1
  | lookUp entry c => exact looked entry (fun _ => rfl) _ (w.outline_leaveTokenLock c t)
  | startLoad =>
    exact turned_goOn t .caller (fun _ => rfl) _ (.once (Load.deed_start t .caller rfl w live))
  | detachedLoad p =>
    exact turned_goOn t .caller (fun _ => rfl) _ (.once (Load.deed_resume t .caller p w))
  | setup p =>
    exact turned_goOn t .caller (fun _ => rfl) _ (.once (Setup.deed_resume t .caller p w))
  | autostart =>
    exact turned_goOn t .caller (fun _ => rfl) _
      (.once (Connect.deed_start t .caller false rfl w fun h => by cases h))
  | autoconnect a =>
    exact turned_goOn t .caller (fun _ => rfl) _ (.once (Connect.deed_resume t .caller a w))
  | handler p =>
    exact turned_goOn t .handler (fun _ => rfl) _ (.once (Handler.deed_resume t p w))
  | guard g p => exact turned_goOn t (.guard g) (fun _ => rfl) _ (Guard.turned_resume t g p w)

lemma exists_point_of_report {entry : Nat} {point : P → Task} {result : R → Result}
    {turn : Turn P R} {next : Task} (h : (report entry point result turn).2 = some next) :
    ∃ p, next = point p := by
  obtain ⟨v, progress⟩ := turn
  cases progress with
  | wait p => exact ⟨p, (Option.some.inj h).symm⟩
  | done r => cases h
  | panic => cases h

lemma exists_point_of_goOn {point : P → Task} {turn : Turn P R} {next : Task}
    (h : (goOn point turn).2 = some next) : ∃ p, next = point p := by
  obtain ⟨v, progress⟩ := turn
  cases progress with
  | wait p => exact ⟨p, (Option.some.inj h).symm⟩
  | done r => cases h
  | panic => cases h

lemma goOn_fst (point : P → Task) (turn : Turn P R) : (goOn point turn).1 = turn.1 := by
  obtain ⟨v, _ | _ | _⟩ := turn <;> rfl

lemma job_report {entry : Nat} {point : P → Task} {result : R → Result} {f : P → Job}
    (at_point : ∀ p, (point p).job = f p) (turn : Turn P R) :
    jobOf (report entry point result turn).2 = turn.2.job f := by
  obtain ⟨v, p | _ | _⟩ := turn
  · exact at_point p
  · rfl
  · rfl

lemma job_goOn {point : P → Task} {f : P → Job} (at_point : ∀ p, (point p).job = f p)
    (turn : Turn P R) : jobOf (goOn point turn).2 = turn.2.job f := by
  obtain ⟨v, p | _ | _⟩ := turn
  · exact at_point p
  · rfl
  · rfl

lemma owner_resume {task next : Task} {w : World} (h : (resume t task w).2 = some next) :
    next.owner = task.owner := by
  have report_eq {P R : Type} {entry : Nat} {point : P → Task} {result : R → Result}
      (owned : ∀ p, (point p).owner = .caller) (turn : Turn P R)
      (h : (report entry point result turn).2 = some next) : next.owner = .caller := by
    obtain ⟨p, rfl⟩ := exists_point_of_report h
    exact owned p
  have goOn_eq {P R : Type} {o : Owner} (point : P → Task) (owned : ∀ p, (point p).owner = o)
      (turn : Turn P R) (h : (goOn point turn).2 = some next) : next.owner = o := by
    obtain ⟨p, rfl⟩ := exists_point_of_goOn h
    exact owned p
  cases task with
  | asked entry operation =>
    cases operation with
    | start => cases h
    | _ => exact report_eq (fun _ => rfl) _ h
  | load | teardown | connect | disconnect | check | refresh | lookUp =>
    exact report_eq (fun _ => rfl) _ h
  | startLoad | detachedLoad => exact goOn_eq .detachedLoad (fun _ => rfl) _ h
  | setup => exact goOn_eq .setup (fun _ => rfl) _ h
  | autostart | autoconnect => exact goOn_eq .autoconnect (fun _ => rfl) _ h
  | handler => exact goOn_eq .handler (fun _ => rfl) _ h
  | guard g => exact goOn_eq (.guard g) (fun _ => rfl) _ h

end Task

/-! ### Moves -/

/-- After the deeds of its turn, a task comes to its next point or to its end, where `calm` says
that the handler does not panic. -/
inductive Ending (calm : Prop) (t : TaskId) (o : Owner) (c d : Outline) : Job → Outline → Prop where
  | pass {y : Job} : Ending calm t o c d y (d.pass t y)
  | finish (handler : o = .handler → calm → c.isCancelled t = true)
      (guard : ∀ g, o = .guard g → c.isCancelled t = true ∨ c.state.activeFor? g = none) :
      Ending calm t o c d .rest (d.finish t)

namespace Ending

variable {t} {calm : Prop} {o : Owner} {c d e : Outline} {y : Job}

lemma state (ending : Ending calm t o c d y e) : e.state = d.state := by
  cases ending <;> rfl

lemma tunnels (ending : Ending calm t o c d y e) : e.tunnels = d.tunnels := by
  cases ending <;> rfl

lemma events (ending : Ending calm t o c d y e) : e.events = d.events := by
  cases ending <;> rfl

lemma job (ending : Ending calm t o c d y e) : e.job t = y := by
  cases ending <;> exact Roster.job_pass_self _

lemma job_of_ne {u : TaskId} (ending : Ending calm t o c d y e) (other : u ≠ t) :
    e.job u = d.job u := by
  cases ending <;> exact Roster.job_pass_of_ne other _

lemma owner_of_ne {u : TaskId} (ending : Ending calm t o c d y e) (other : u ≠ t) :
    e.owner u = d.owner u := by
  cases ending with
  | pass => rfl
  | finish => exact Roster.owner_remove_of_ne other

end Ending

/-- What may happen besides the turns of the tasks. -/
inductive Outside (c : Outline) : Outline → Prop where
  | same : Outside c c
  | ask (operation : Operation) : Outside c (c.spawn .caller operation.job)
  | giveUp {t : TaskId} (own : c.owner t = some .caller) (idle : c.job t = .rest) :
      Outside c (c.remove t)
  /-- A connection is lost. -/
  | drop (n : TunnelId) : Outside c (c.setConnected n false)
  | host (runtimeReady : Bool) : Outside c { c with runtimeReady := runtimeReady }

lemma Outside.same_slots {c d : Outline} (happened : Outside c d) :
    d.handlerSlot = c.handlerSlot ∧ d.guardSlot = c.guardSlot ∧ d.state = c.state := by
  cases happened <;> exact ⟨rfl, rfl, rfl⟩

/-- An attempt that waits for the lock gets a turn once it holds the lock, or once it has been
cancelled. -/
def Outline.Ready (c : Outline) (t : TaskId) : Prop :=
  ∀ a, c.job t = .attempt a → a.step = .lock →
    c.connectLock.holder = some t ∨ a.guarded = true ∧ c.isCancelled t = true

/-- What a move does to the outline. -/
inductive Step (calm : Prop) (c : Outline) : Outline → Prop where
  | turn {t : TaskId} {o : Owner} {d e : Outline} {y : Job} (own : c.owner t = some o)
      (turned : Turned t o c (c.job t) d y) (ending : Ending calm t o c d y e)
      (ready : c.Ready t) : Step calm c e
  | outside {d : Outline} (happened : Outside c d) : Step calm c d

def Progress.isPanic {P R : Type} : Progress P R → Bool
  | panic => true
  | _ => false

/-- The handler panics in its turn: the next night is out of its reach. -/
def Task.panics (t : TaskId) (w : World) : Task → Bool
  | handler p => (Handler.resume t p w).2.isPanic
  | _ => false

def Move.panics (m : Move) (w : World) : Bool :=
  match m with
  | turn t => (w.schedule.point? t).any (Task.panics t w)
  | _ => false

namespace World

variable {t} {w w' : World}

lemma outline_owner {task : Task} (here : w.schedule.point? t = some task) :
    w.outline.owner t = some task.owner := congrArg (Option.map Task.owner) here

lemma outline_job {task : Task} (here : w.schedule.point? t = some task) :
    w.outline.job t = task.job := congrArg jobOf here

lemma point?_of_setup {p : SetupPoint} (at_it : w.outline.job t = .setup p) :
    w.schedule.point? t = some (.setup p) := by
  cases there : w.schedule.point? t with
  | none =>
    rw [show w.outline.job t = jobOf _ from rfl, there] at at_it
    cases at_it
  | some task => rw [Task.eq_setup_of_job ((outline_job there).symm.trans at_it)]

/-- What a task that is over was about. -/
lemma over_of_resume {task : Task} {v : World} (here : w.schedule.point? t = some task)
    (ended : Task.resume t task w = (v, none)) :
    (task.owner = .handler → ¬ (Move.turn t).panics w → w.isCancelled t = true) ∧
      ∀ g, task.owner = .guard g → w.isCancelled t = true ∨ w.state.activeFor? g = none := by
  have stopped {P : Type} {point : P → Task} {turn : Turn P Unit}
      (h : (Task.goOn point turn).2 = none) (p : P) : turn.2 ≠ .wait p := by
    rintro goesOn
    obtain ⟨u, progress⟩ := turn
    obtain rfl : progress = _ := goesOn
    cases h
  have ended := congrArg Prod.snd ended
  refine ⟨fun own calm => ?_, fun g own => ?_⟩
  · cases task with
    | handler p =>
      have stopped := stopped ended
      rcases ended : (Handler.resume t p w).2 with p' | _ | _
      · exact absurd ended (stopped p')
      · exact Handler.cancelled_of_done t ended
      · refine absurd ?_ calm
        rw [Move.panics, here, Option.any_some, Task.panics, ended]
        rfl
    | _ => cases own
  · cases task with
    | guard g' p =>
      cases own
      exact Guard.over_of_resume t g (stopped ended)
    | _ => cases own

/-- A task gets a turn when it need not wait. -/
lemma exists_of_turn (turn : (Move.turn t).outcome? w = some w') : ∃ task,
    w.schedule.point? t = some task ∧ w.ready t task = true ∧ w' = advance t task w := by
  obtain ⟨task, here, turn⟩ := Option.bind_eq_some_iff.1 turn
  obtain ⟨ready, turn⟩ := Option.ite_none_right_eq_some.1 turn
  exact ⟨task, here, ready, (Option.some.inj turn).symm⟩

lemma point?_advance (t : TaskId) (task : Task) (w : World) :
    (advance t task w).schedule.point? t = (Task.resume t task w).2 := by
  unfold advance
  rw [show Cooperative.resume t task w = Task.resume t task w from rfl]
  rcases Task.resume t task w with ⟨v, _ | next⟩
  · exact (Schedule.point?_removeTask ..).trans (if_pos rfl)
  · exact (Schedule.point?_moveTask ..).trans (if_pos rfl)

/-- Nothing but the schedule and the slots changes after that. -/
lemma advance_eq (t : TaskId) (task : Task) (w : World) :
    advance t task w = { (Task.resume t task w).1 with
      schedule := (advance t task w).schedule
      handlerSlot := (advance t task w).handlerSlot
      guardSlot := (advance t task w).guardSlot } := by
  unfold advance
  rw [show Cooperative.resume t task w = Task.resume t task w from rfl]
  rcases Task.resume t task w with ⟨v, _ | next⟩ <;> rfl

lemma now_advance (t : TaskId) (task : Task) (w : World) :
    (advance t task w).now = (Task.resume t task w).1.now := by
  unfold advance
  rw [show Cooperative.resume t task w = Task.resume t task w from rfl]
  rcases Task.resume t task w with ⟨v, _ | next⟩ <;> rfl

lemma ready_of_turn (turn : (Move.turn t).outcome? w = some w') : w.outline.Ready t := by
  obtain ⟨task, here, ready, -⟩ := exists_of_turn turn
  intro a job lock
  rw [outline_job here] at job
  obtain ⟨active, guarded, step⟩ := a
  obtain rfl : step = .lock := lock
  have arrived (arrived : w.arrived t .connectLock = true) :
      w.connectLock.holder = some t := of_decide_eq_true arrived
  rcases Task.eq_of_attempt job with ⟨entry, rfl⟩ | rfl | ⟨g, rfl⟩
  · exact .inl (arrived ((Bool.or_false _).symm.trans ready))
  · exact .inl (arrived ((Bool.or_false _).symm.trans ready))
  · rcases Bool.or_eq_true_iff.1 ready with there | cancelled
    · exact .inl (arrived there)
    · obtain ⟨heeds, cancelled⟩ := Bool.and_eq_true_iff.1 cancelled
      exact .inr ⟨(Bool.and_eq_true_iff.1 heeds).1, cancelled⟩

/-- A turn: the deeds of a program, and then its next point or its end. -/
theorem turn_cases (turn : (Move.turn t).outcome? w = some w') :
    ∃ task d y, w.schedule.point? t = some task ∧ Turned t task.owner w.outline task.job d y ∧
      Ending (¬ (Move.turn t).panics w) t task.owner w.outline d y w'.outline := by
  obtain ⟨task, here, -, rfl⟩ := exists_of_turn turn
  have turned := Task.turned_resume t task w
  rcases resumed : Task.resume t task w with ⟨v, next⟩
  rw [resumed] at turned
  refine ⟨task, v.outline, jobOf next, here, turned, ?_⟩
  unfold advance
  rw [show Cooperative.resume t task w = _ from resumed]
  cases next with
  | some task' =>
    have own : v.outline.owner t = some task'.owner := by
      rw [Task.owner_resume t (congrArg Prod.snd resumed)]
      exact turned.owner_of_some (outline_owner here)
    dsimp only
    rw [show (mapSchedule (·.moveTask t task') v).outline = _ from outline_moveTask v t task' own]
    exact .pass
  | none =>
    obtain ⟨handler, guard⟩ := over_of_resume here resumed
    dsimp only
    rw [show (Cooperative.finish t (mapSchedule (·.removeTask t) v)).outline = _ from
      outline_endTask v t]
    exact .finish handler guard

end World

namespace Move

variable {m : Move} {w w' : World}

/-- All moves but turns come from outside. -/
theorem outside (move : m.outcome? w = some w') (other : ∀ t, m ≠ .turn t) :
    Outside w.outline w'.outline := by
  cases m with
  | turn t => exact absurd rfl (other t)
  | ask operation =>
    obtain rfl := Option.some.inj move
    rw [show (w.ask operation).outline = _ from w.outline_spawn (.asked w.nextEntry operation)]
    exact .ask operation
  | giveUp t =>
    have leave (task : Task) (here : w.schedule.point? t = some task) (own : task.owner = .caller)
        (idle : task.job = .rest) (c : CycleId) :
        Outside w.outline ({ w with schedule := w.schedule.removeTask t }.leaveTokenLock c t :
          World).outline := by
      rw [outline_leaveTokenLock, outline_removeTask]
      exact .giveUp ((outline_owner here).trans (congrArg some own))
        ((outline_job here).trans idle)
    unfold outcome? giveUp? at move
    dsimp only at move
    split at move
    · next c _ here => exact Option.some.inj move ▸ leave _ here rfl rfl c
    · next c here => exact Option.some.inj move ▸ leave _ here rfl rfl c
    · cases move
  | drop n =>
    obtain rfl := Option.some.inj move
    rw [dropConnection, outline_setConnected]
    exact .drop _
  | build =>
    rw [outcome?, finishBuild?] at move
    split at move
    · cases move
    · obtain rfl := Option.some.inj move
      rw [outline_wake]
      exact .same
  | time now =>
    obtain ⟨-, move⟩ := Option.ite_none_right_eq_some.1 move
    obtain rfl := Option.some.inj move
    exact .same
  | host runtimeReady autostart =>
    obtain rfl := Option.some.inj move
    exact .host runtimeReady
  | line | answers | clock =>
    obtain rfl := Option.some.inj move
    exact .same

/-- A move is the turn of a task, or it comes from outside. -/
theorem cases (move : m.outcome? w = some w') :
    (∃ t task d y, m = .turn t ∧ w.schedule.point? t = some task ∧
      Turned t task.owner w.outline task.job d y ∧
      Ending (¬ m.panics w) t task.owner w.outline d y w'.outline) ∨
    ((∀ t, m ≠ .turn t) ∧ Outside w.outline w'.outline) := by
  by_cases turn : ∃ t, m = .turn t
  · obtain ⟨t, rfl⟩ := turn
    obtain ⟨task, d, y, here, turned, ending⟩ := turn_cases move
    exact .inl ⟨t, task, d, y, rfl, here, turned, ending⟩
  · have other (t : TaskId) : m ≠ .turn t := fun eq => turn ⟨t, eq⟩
    exact .inr ⟨other, outside move other⟩

theorem step (move : m.outcome? w = some w') : Step (¬ m.panics w) w.outline w'.outline := by
  rcases cases move with ⟨t, task, d, y, rfl, here, turned, ending⟩ | ⟨-, happened⟩
  · rw [← outline_job here] at turned
    exact .turn (outline_owner here) turned ending (World.ready_of_turn move)
  · exact .outside happened

end Move

end TunnelKeeper.Coordinator
