import TunnelKeeper.Proofs.Desk

/-!
What a program leaves behind. Every program leaves the settings and the clocks alone and moves no
task but its own; `World.Touches` says for each how much else it may change. Most of them have no
business at the desk where tokens are looked up, and many neither order anything nor change what the
authorities have on file.
-/

namespace TunnelKeeper.Coordinator

open World Cooperative

/-! ### Fixtures -/

/-- What no program changes. -/
structure Fixtures where
  config : Config
  zone : Zone
  startMillis : Int
  startNanos : Fin 1000000
  draws : Nat → Nat

def World.fixtures (w : World) : Fixtures :=
  ⟨w.config, w.zone, w.startMillis, w.startNanos, w.draws⟩

lemma World.clockAfter_congr {w v : World} (same : v.fixtures = w.fixtures) :
    v.clockAfter = w.clockAfter := by
  have millis : v.startMillis = w.startMillis := congrArg Fixtures.startMillis same
  have nanos : v.startNanos = w.startNanos := congrArg Fixtures.startNanos same
  unfold clockAfter
  rw [millis, nanos]

/-! ### Tasks that come -/

/-- A task that the coordinator has just spawned for work of its own, and not for a start. -/
def Task.isNew : Task → Bool
  | setup ⟨_, _, .start⟩ => true
  | autostart => true
  | handler .start => true
  | guard _ .start => true
  | _ => false

lemma Task.visit?_of_isNew {task : Task} (new : task.isNew = true) : task.visit? = none := by
  unfold isNew at new
  split at new <;> first | rfl | cases new

namespace World

/-- All tasks are where they were, and some may have come that are new. -/
def Grows (w v : World) : Prop :=
  ∃ new, v.schedule.tasks = w.schedule.tasks ++ new ∧ ∀ x ∈ new, x.2.isNew = true

namespace Grows

variable {w v u : World}

lemma of_same (same : v.schedule.tasks = w.schedule.tasks) : w.Grows v :=
  ⟨[], by simp [same]⟩

lemma trans (h : w.Grows v) (h' : v.Grows u) : w.Grows u := by
  obtain ⟨new, tasks, fresh⟩ := h
  obtain ⟨new', tasks', fresh'⟩ := h'
  refine ⟨new ++ new', by simp [tasks, tasks'], fun x there => ?_⟩
  exact (List.mem_append.1 there).elim (fresh x) (fresh' x)

lemma point? {t : TaskId} {task : Task} (h : w.Grows v)
    (here : w.schedule.point? t = some task) : v.schedule.point? t = some task := by
  obtain ⟨new, tasks, -⟩ := h
  have here : w.schedule.tasks.lookup t = some task := here
  unfold Schedule.point?
  simp [tasks, List.lookup_append, here]

lemma point?_cases {t : TaskId} {task : Task} (h : w.Grows v)
    (there : v.schedule.point? t = some task) :
    w.schedule.point? t = some task ∨ task.isNew = true := by
  obtain ⟨new, tasks, fresh⟩ := h
  unfold Schedule.point? at there
  rw [tasks, List.lookup_append] at there
  rcases Option.or_eq_some_iff.1 there with before | ⟨-, came⟩
  · exact .inl before
  · obtain ⟨_, _, rfl, -⟩ := List.lookup_eq_some_iff.1 came
    exact .inr (fresh (t, task) (by simp))

end Grows
end World

/-! ### Offices -/

/-- The collaborators are asked to do something new. Registrations and the calls that undo something
are left out. -/
def Event.isOrder : Event → Bool
  | token _ => true
  | createAuthority _ _ => true
  | loadCertificate => true
  | issueCertificate _ => true
  | resetAuthority => true
  | hardenFiles => true
  | createTunnel _ _ => true
  | startTunnel _ => true
  | connectTunnel _ _ => true
  | _ => false

/-- What an authority has on file: for whom it is, and its current certificate. -/
abbrev File := InstanceIdentity × Option Certificate

structure Office where
  /-- The files of the load cycles. -/
  files : List File
  /-- What has been ordered, the latest first. -/
  orders : List Event

def LoadCycle.file (cycle : LoadCycle) : File := (cycle.identity, cycle.certificate)

namespace World

/-- What has been ordered so far, the latest first. -/
def orders (w : World) : List Event := (w.trace.map Prod.snd).filter Event.isOrder

def office (w : World) : Office := ⟨w.cycles.map LoadCycle.file, w.orders⟩

end World

/-! ### Footprints -/

/-- How much of the world a program may change besides its own affairs. -/
inductive Footprint where
  /-- Neither the office nor the desk. -/
  | plain
  /-- The office, but not the desk. -/
  | office
  /-- Both. -/
  | desk

namespace World

/-- The world may have changed so far, but no further. -/
structure Touches (f : Footprint) (w v : World) : Prop where
  fixtures : v.fixtures = w.fixtures
  grows : w.Grows v
  desk : f ≠ .desk → v.desk = w.desk
  office : f = .plain → v.office = w.office

/-- What the desk is made of, and the fixtures. -/
def grounds (w : World) : Fixtures × List (TaskId × Task) × List LoadCycle × List KeyId :=
  (w.fixtures, w.schedule.tasks, w.cycles, w.sent)

namespace Touches

variable {f : Footprint} {w v u : World}

lemma desk_of_grounds (same : v.grounds = w.grounds) : v.desk = w.desk := by
  have tasks : v.schedule.tasks = w.schedule.tasks := congrArg (·.2.1) same
  have cycles : v.cycles = w.cycles := congrArg (·.2.2.1) same
  have sent : v.sent = w.sent := congrArg (·.2.2.2) same
  unfold World.desk tokenLock kept visit cycle? Schedule.point?
  rw [tasks, cycles, sent]

/-- Nothing has been ordered, and all else that matters is as it was. -/
lemma of_same (same : v.grounds = w.grounds) (orders : v.orders = w.orders) : w.Touches f v where
  fixtures := congrArg Prod.fst same
  grows := .of_same (congrArg (·.2.1) same)
  desk _ := desk_of_grounds same
  office _ := by
    have cycles : v.cycles = w.cycles := congrArg (·.2.2.1) same
    unfold World.office
    rw [cycles, orders]

/-- Something may have been ordered, but no token. -/
lemma of_order (same : v.grounds = w.grounds) : w.Touches .office v where
  fixtures := congrArg Prod.fst same
  grows := .of_same (congrArg (·.2.1) same)
  desk _ := desk_of_grounds same
  office := nofun

lemma of_tasks (fixtures : v.fixtures = w.fixtures)
    (tasks : v.schedule.tasks = w.schedule.tasks) : w.Touches .desk v where
  fixtures := fixtures
  grows := .of_same tasks
  desk away := absurd rfl away
  office := nofun

lemma of_office (h : w.Touches .office v) : w.Touches .desk v where
  fixtures := h.fixtures
  grows := h.grows
  desk away := absurd rfl away
  office := nofun

lemma refl (w : World) : w.Touches f w := of_same rfl rfl

lemma trans (h : w.Touches f v) (h' : v.Touches f u) : w.Touches f u where
  fixtures := h'.fixtures.trans h.fixtures
  grows := h.grows.trans h'.grows
  desk away := (h'.desk away).trans (h.desk away)
  office plain := (h'.office plain).trans (h.office plain)

lemma since (h : v.Touches f u) (same : v.grounds = w.grounds) (orders : v.orders = w.orders) :
    w.Touches f u := (of_same same orders).trans h

end Touches

/-! ### Operations -/

variable {f : Footprint} (w : World)

lemma touches_wakeOption (t : Option TaskId) : w.Touches f (w.wakeOption t) := by
  rw [wakeOption_eq]
  exact .of_same rfl rfl

lemma touches_spawn (task : Task) (new : task.isNew = true) : w.Touches f (w.spawn task) where
  fixtures := rfl
  grows := ⟨[(w.schedule.next, task)], rfl, by simpa using new⟩
  desk _ := w.desk_spawn (Task.visit?_of_isNew new)
  office _ := rfl

lemma touches_startHandler : w.Touches f w.startHandler := by
  unfold startHandler
  split
  · exact .refl w
  · exact (w.touches_spawn (.handler .start) rfl).trans (.of_same rfl rfl)

lemma touches_startGuard (g : Nat) : w.Touches f (w.startGuard g) := by
  unfold startGuard
  split
  · exact .refl w
  · exact (w.touches_spawn (.guard g .start) rfl).trans (.of_same rfl rfl)

lemma touches_cancelGuard : w.Touches f w.cancelGuard := by
  unfold cancelGuard
  exact (touches_wakeOption _ _).since rfl rfl

lemma touches_cancelHandler : w.Touches f w.cancelHandler := by
  unfold cancelHandler
  exact (touches_wakeOption _ _).since rfl rfl

lemma touches_leaveConnectLock (t : TaskId) : w.Touches f (w.leaveConnectLock t) := by
  unfold leaveConnectLock
  exact (touches_wakeOption _ _).since rfl rfl

lemma touches_setConnected (n : TunnelId) (connected : Bool) :
    w.Touches f (w.setConnected n connected) := by
  unfold setConnected
  rw [Schedule.wakeWhere_eq]
  exact .of_same rfl rfl

lemma touches_connectArrived (n : TunnelId) (lasting : Bool) :
    w.Touches f (w.connectArrived n lasting) := by
  cases lasting with
  | false => exact .refl w
  | true => exact w.touches_setConnected n true

lemma touches_stopArrived (n : TunnelId) : w.Touches f (w.stopArrived n) :=
  (touches_setConnected _ n false).since rfl rfl

/-- The certificate of a load cycle matters to the office alone. -/
lemma touches_certificate (c : CycleId) (certificate : Option Certificate) :
    w.Touches .office (w.modifyCycle c fun cycle => { cycle with certificate := certificate }) where
  fixtures := rfl
  grows := .of_same rfl
  desk _ := w.desk_modifyCycle c (fun _ => rfl) fun _ => rfl
  office := nofun

lemma touches_issueArrived (c : CycleId) (issue : Issue) :
    w.Touches .office (w.issueArrived c issue) :=
  (w.touches_certificate c (some (w.issuedNow c issue))).trans (.of_same rfl rfl)

lemma touches_resetArrived (c : CycleId) : w.Touches .office (w.resetArrived c) :=
  (w.touches_certificate c none).trans (.of_same rfl rfl)

lemma touches_createAuthority (identity : InstanceIdentity) :
    w.Touches .office (w.createAuthority identity).2 where
  fixtures := rfl
  grows := .of_same rfl
  desk _ := w.desk_createAuthority identity
  office := nofun

lemma touches_leaveTokenLock (c : CycleId) (t : TaskId) :
    w.Touches .desk (w.leaveTokenLock c t) := by
  have left : w.Touches .desk (w.modifyCycle c fun cycle =>
      { cycle with tokenLock := (cycle.tokenLock.leave t).1 }) := .of_tasks rfl rfl
  exact left.trans (touches_wakeOption _ _)

end World

variable {f : Footprint} (t : TaskId) (w : World)

/-! ### Programs -/

namespace Load

lemma touches_start : w.Touches f (start w).1 := by
  unfold start
  split
  · exact .refl w
  · next state _ =>
    have began : w.Touches f ({ w with state := state } : World).startHandler :=
      (touches_startHandler _).since rfl rfl
    exact began.trans (.of_same rfl rfl)

lemma touches_complete (g : Nat) (c : CycleId) : w.Touches f (complete g c w).1 := by
  unfold complete
  split
  · next state _ => exact (touches_spawn { w with state := state } _ rfl).since rfl rfl
  · exact .refl w

lemma touches_fail (g : Nat) (e : BackendError) : w.Touches f (fail g e w).1 := .of_same rfl rfl

lemma touches_registered (g : Nat) (response : RegisterResponse) :
    w.Touches .office (registered g response w).1 := by
  unfold registered
  split
  · exact touches_fail w g _
  · split
    · let identity : InstanceIdentity := ⟨response.domain, response.server, response.email⟩
      have opened := (w.notice (.registered identity)).touches_createAuthority identity
      have opened : w.Touches .office _ := opened.since rfl rfl
      exact opened.trans (.of_order rfl)
    · exact .refl w

lemma touches_certificateLoaded (g : Nat) (c : CycleId) :
    w.Touches .office (certificateLoaded g c w).1 := by
  unfold certificateLoaded
  split
  · split
    · exact touches_complete w g c
    · split
      · exact .of_order rfl
      · exact touches_complete w g c
  · exact .refl w

lemma touches_resume (p : LoadPoint) : w.Touches .office (resume p w).1 := by
  cases p with
  | register g call deadline =>
    rw [resume]
    split
    · split
      · exact touches_registered w g _
      · exact touches_fail w g _
    · exact touches_fail w g _
  | certificate g c call =>
    rw [resume]
    split
    · exact (w.touches_certificate c w.storage).trans (touches_certificateLoaded _ g c)
    · exact (touches_certificateLoaded (w.notice _) g c).since rfl rfl
  | reset g c call =>
    -- The load goes on whether or not the authority has been reset.
    have settled {v : World} (arrived : w.Touches .office v) :
        w.Touches .office (if v.state.IsCurrent g then complete g c v else (v, .done ())).1 := by
      split
      · exact arrived.trans (touches_complete v g c)
      · exact arrived
    rw [resume]
    refine settled ?_
    split
    · exact w.touches_resetArrived c
    · exact .of_same rfl rfl

end Load

namespace Setup

lemma touches_awaitRuntime (p : SetupPoint) : w.Touches f (awaitRuntime t p w).1 := by
  unfold awaitRuntime
  rw [askRuntimeReady]
  cases w.runtimeReady with
  | true => exact .of_same rfl rfl
  | false =>
    dsimp only
    split <;> exact .of_same rfl rfl

lemma touches_announce (p : SetupPoint) : w.Touches f (announce p w).1 := by
  unfold announce
  dsimp only
  split
  · next v asked =>
    obtain rfl := congrArg Prod.snd asked
    exact (touches_spawn _ _ rfl).since rfl rfl
  · next v asked =>
    obtain rfl := congrArg Prod.snd asked
    exact .of_same rfl rfl

lemma touches_issued (p : SetupPoint) (answer : Except CertificateError Issue) :
    w.Touches .office (issued p answer w).1 := by
  unfold issued
  cases answer with
  | ok issue =>
    have arrived := w.touches_issueArrived p.cycle issue
    dsimp only
    split
    · exact arrived.trans (.of_order rfl)
    · exact arrived
  | error e =>
    dsimp only
    split <;> exact .of_same rfl rfl

lemma touches_started (p : SetupPoint) (n : TunnelId) : w.Touches f (started p n w).1 := by
  unfold started
  dsimp only
  split
  · exact (touches_announce _ p).since rfl rfl
  · exact .of_same rfl rfl

lemma touches_resume (p : SetupPoint) : w.Touches .office (resume t p w).1 := by
  obtain ⟨g, c, step⟩ := p
  cases step with
  | start =>
    simp only [resume]
    split <;> exact .of_order rfl
  | issue call => exact touches_issued w _ call.answer
  | harden call =>
    simp only [resume]
    split
    · exact touches_awaitRuntime t w _
    · exact (touches_awaitRuntime t (w.notice _) _).since rfl rfl
  | pause due => exact touches_awaitRuntime t w _
  | build answer =>
    cases answer with
    | ok _ => exact .of_order rfl
    | error e => exact .of_same rfl rfl
  | startTunnel n call =>
    simp only [resume]
    split
    · exact touches_started w _ n
    · exact .of_same rfl rfl
  | discard n call => exact w.touches_stopArrived n

end Setup

namespace Teardown

lemma touches_announce : w.Touches f (announce w).1 := .of_same rfl rfl

lemma touches_taken (withHandler : Bool) : w.Touches f (taken withHandler w) := by
  have cancelled : w.Touches f ({ w with state := w.state.take.2 } : World).cancelGuard :=
    (touches_cancelGuard _).since rfl rfl
  cases withHandler with
  | false => exact cancelled
  | true => exact cancelled.trans (touches_cancelHandler _)

lemma touches_start (withHandler : Bool) : w.Touches f (start withHandler w).1 := by
  have taken := touches_taken (f := f) w withHandler
  cases phase : w.state.phase with
  | ready r n =>
    rw [start_of_ready phase]
    exact taken.trans (.of_same rfl rfl)
  | loading | stalled =>
    simp only [start, BackendState.take, phase]
    exact taken.trans (touches_announce _)
  | registering | absent =>
    simp only [start, BackendState.take, phase]
    exact taken

lemma touches_resume (p : TeardownPoint) : w.Touches f (resume p w).1 :=
  (w.touches_stopArrived p.tunnel).trans (touches_announce _)

end Teardown

namespace Refresh

lemma touches_resume (c : CycleId) (p : RefreshPoint) : w.Touches .desk (resume t c p w).1 := by
  cases p with
  | lock =>
    rw [resume]
    split
    · exact w.touches_leaveTokenLock c t
    · exact .of_tasks rfl rfl
  | request key call deadline =>
    rw [resume]
    split
    · split
      · next new _ =>
        have kept : w.Touches .desk (keep c new w) := .of_tasks rfl rfl
        exact kept.trans (touches_leaveTokenLock _ c t)
      · exact w.touches_leaveTokenLock c t
    · exact w.touches_leaveTokenLock c t

end Refresh

namespace Connect

lemma touches_finish (a : Attempt) : w.Touches f (finish t a w).1 := by
  have left : w.Touches f (w.leaveConnectLock t) := w.touches_leaveConnectLock t
  unfold finish
  dsimp only
  split
  · exact left
  · exact left.trans (touches_startGuard _ _)

lemma touches_start (guarded : Bool) : w.Touches f (start t guarded w).1 := by
  unfold start
  split
  · exact .refl w
  · split <;> exact .of_same rfl rfl

lemma touches_request (caller : String) : w.Touches f (request t caller w).1 := by
  unfold request
  split
  · exact .refl w
  · split
    · exact .refl w
    · exact (touches_start t (w.notice _) false).since rfl rfl

lemma touches_refreshed (a : Attempt) {turn : Turn RefreshPoint Refresh.Answer}
    (touches : w.Touches .desk turn.1) : w.Touches .desk (refreshed t a turn).1 := by
  obtain ⟨v, _ | answer | _⟩ := turn
  · exact touches
  · cases answer with
    | ok token =>
      simp only [refreshed, connect]
      split
      · exact touches.trans (.of_tasks rfl rfl)
      · exact touches.trans (touches_finish t v a)
    | error e => exact touches.trans ((touches_finish t (v.notice _) a).since rfl rfl)
  · exact touches

lemma touches_resume (a : Attempt) : w.Touches .desk (resume t a w).1 := by
  obtain ⟨active, guarded, step⟩ := a
  cases step with
  | lock =>
    simp only [resume]
    split
    · exact w.touches_leaveConnectLock t
    · split
      · exact touches_finish t w _
      · exact touches_refreshed t w _ (.of_tasks rfl rfl)
  | refresh p =>
    simp only [resume]
    split
    · exact (w.touches_leaveTokenLock _ t).trans (touches_finish t _ _)
    · exact touches_refreshed t w _ (Refresh.touches_resume t w _ p)
  | connect call =>
    simp only [resume]
    split
    · exact (touches_finish t (w.notice _) _).since rfl rfl
    · next lasting _ =>
      have arrived := w.touches_connectArrived (f := .desk) active.tunnel lasting
      split
      · exact arrived.trans (.of_same rfl rfl)
      · unfold connected
        split
        · exact arrived.trans ((touches_finish t _ _).since rfl rfl)
        · exact arrived.trans (touches_finish t _ _)
  | undo call => exact (w.touches_setConnected _ false).trans (touches_finish t _ _)

end Connect

namespace Disconnect

lemma touches_start : w.Touches f (start w).1 := by
  unfold start
  split
  · exact .refl w
  · dsimp only
    split
    · exact w.touches_cancelGuard.trans (.of_same rfl rfl)
    · exact w.touches_cancelGuard

lemma touches_resume (p : DisconnectPoint) : w.Touches f (resume p w).1 :=
  (w.touches_setConnected p.tunnel false).trans (.of_same rfl rfl)

end Disconnect

namespace Check

lemma touches_tearingDown {turn : Turn TeardownPoint Unit} (touches : w.Touches f turn.1) :
    w.Touches f (tearingDown turn).1 := by
  obtain ⟨v, _ | _ | _⟩ := turn <;> exact touches

lemma touches_start : w.Touches .office (start w).1 := by
  unfold start
  split
  · rw [loading_fst]
    exact Load.touches_start w
  · dsimp only
    split
    · exact .refl w
    · exact .refl w
    · exact .of_order rfl

lemma touches_resume (p : CheckPoint) : w.Touches .office (resume p w).1 := by
  cases p with
  | load p | reload p =>
    rw [resume, loading_fst]
    exact Load.touches_resume w p
  | settle due =>
    rw [resume, loading_fst]
    exact Load.touches_start w
  | teardown p => exact touches_tearingDown w (Teardown.touches_resume w p)
  | issue c expire checked call =>
    rw [resume]
    split
    · next issue _ =>
      refine touches_tearingDown w ?_
      exact (w.touches_issueArrived c issue).trans (Teardown.touches_start _ false)
    · unfold failed
      split <;> exact .of_same rfl rfl

end Check

namespace Handler

lemma touches_night : w.Touches f (night w).1 := by
  unfold night
  dsimp only
  split <;> exact .of_same rfl rfl

lemma touches_checking {turn : Turn CheckPoint CertificateCheck} (touches : w.Touches f turn.1) :
    w.Touches f (checking turn).1 := by
  obtain ⟨v, _ | _ | _⟩ := turn
  · exact touches
  · exact touches.trans (touches_night v)
  · exact touches

lemma touches_resume (p : HandlerPoint) : w.Touches .office (resume t p w).1 := by
  cases p with
  | start => exact touches_night w
  | sleep due =>
    simp only [resume]
    split
    · exact .refl w
    · exact touches_checking w (Check.touches_start w)
  | check p =>
    simp only [resume]
    split
    · exact .refl w
    · exact touches_checking w (Check.touches_resume w p)

end Handler

namespace Guard

variable (g : Nat)

lemma touches_round : w.Touches f (round g w).1 := by
  unfold round
  split
  · exact .refl w
  · split <;> exact .of_same rfl rfl

lemma touches_attempting {turn : Turn Attempt Result} (touches : w.Touches f turn.1) :
    w.Touches f (attempting t g turn).1 := by
  obtain ⟨v, _ | result | _⟩ := turn
  · exact touches
  · rcases attempting_done t g v result with ended | next
    · rw [ended]
      exact touches
    · rw [next]
      exact touches.trans (touches_round v g)
  · exact touches

lemma touches_resume (p : GuardPoint) : w.Touches .desk (resume t g p w).1 := by
  cases p with
  | start => exact touches_round w g
  | watch n =>
    simp only [resume]
    split <;> exact .of_same rfl rfl
  | sleep due =>
    simp only [resume]
    split
    · exact .refl w
    · exact touches_attempting t w g (Connect.touches_start t w true)
  | attempt a => exact touches_attempting t w g (Connect.touches_resume t w a)

end Guard

/-! ### Tasks -/

namespace Task

lemma touches_report {P R : Type} {entry : Nat} {point : P → Task} {result : R → Result}
    {turn : Turn P R} (touches : w.Touches f turn.1) :
    w.Touches f (report entry point result turn).1 := by
  obtain ⟨v, _ | _ | _⟩ := turn
  · exact touches
  · exact touches.trans (.of_same rfl rfl)
  · exact touches.trans (.of_same rfl rfl)

lemma touches_goOn {P R : Type} {point : P → Task} {turn : Turn P R}
    (touches : w.Touches f turn.1) : w.Touches f (goOn point turn).1 := by
  rwa [goOn_fst]

lemma touches_begin (entry : Nat) {operation : Operation} (other : operation ≠ .start) :
    w.Touches .desk (begin t entry operation w).1 := by
  cases operation with
  | start => exact absurd rfl other
  | load => exact touches_report w (Load.touches_start w)
  | close | stop => exact touches_report w (Teardown.touches_start w true)
  | connect => exact touches_report w (Connect.touches_start t w false)
  | disconnect => exact touches_report w (Disconnect.touches_start w)
  | request caller => exact touches_report w (Connect.touches_request t w caller)
  | check => exact touches_report w (.of_office (Check.touches_start w))
  | refresh | lookUp => exact .of_tasks rfl rfl

/-- What a task may change in its turn. Only for a start it spawns somebody who is to begin a
load. -/
theorem touches_resume (task : Task) : w.Touches .desk (resume t task w).1 ∨
    ∃ entry, task = .asked entry .start ∧
      resume t task w = ((w.spawn .startLoad).record (.done entry .ok), none) := by
  -- A start leaves its load to somebody new, who has no place among the tasks of `Task.isNew`.
  by_cases start : ∃ entry, task = .asked entry .start
  · obtain ⟨entry, rfl⟩ := start
    exact .inr ⟨entry, rfl, rfl⟩
  left
  cases task with
  | asked entry operation =>
    exact touches_begin t w entry fun same => start ⟨entry, congrArg (Task.asked entry) same⟩
  | load entry p => exact touches_report w (.of_office (Load.touches_resume w p))
  | teardown entry p => exact touches_report w (Teardown.touches_resume w p)
  | connect entry a => exact touches_report w (Connect.touches_resume t w a)
  | disconnect entry p => exact touches_report w (Disconnect.touches_resume w p)
  | check entry p => exact touches_report w (.of_office (Check.touches_resume w p))
  | refresh entry c p => exact touches_report w (Refresh.touches_resume t w c p)
  | lookUp entry c => exact touches_report w (w.touches_leaveTokenLock c t)
  | startLoad => exact touches_goOn w (Load.touches_start w)
  | detachedLoad p => exact touches_goOn w (.of_office (Load.touches_resume w p))
  | setup p => exact touches_goOn w (.of_office (Setup.touches_resume t w p))
  | autostart => exact touches_goOn w (Connect.touches_start t w false)
  | autoconnect a => exact touches_goOn w (Connect.touches_resume t w a)
  | handler p => exact touches_goOn w (.of_office (Handler.touches_resume t w p))
  | guard g p => exact touches_goOn w (Guard.touches_resume t w g p)

end Task

/-! ### Moves -/

variable {t w}

/-- No move changes the fixtures, unless the wall clock is set. -/
theorem Move.fixtures {m : Move} {w' : World} (move : m.outcome? w = some w')
    (unset : ∀ millis, m ≠ .clock millis) : w'.fixtures = w.fixtures := by
  have left (v : World) (c : CycleId) (t : TaskId) :
      (v.leaveTokenLock c t).fixtures = v.fixtures := (v.touches_leaveTokenLock c t).fixtures
  cases m with
  | turn t =>
    obtain ⟨task, -, -, rfl⟩ := exists_of_turn move
    rw [advance_eq]
    rcases Task.touches_resume t w task with touches | ⟨entry, -, started⟩
    · exact touches.fixtures
    · rw [started]
      rfl
  | clock millis => exact absurd rfl (unset millis)
  | giveUp t =>
    unfold outcome? giveUp? at move
    dsimp only at move
    split at move
    · next c _ _ => exact Option.some.inj move ▸ left _ c t
    · next c _ => exact Option.some.inj move ▸ left _ c t
    · cases move
  | build =>
    rw [outcome?, finishBuild?] at move
    split at move
    · cases move
    · exact Option.some.inj move ▸ rfl
  | time now =>
    obtain ⟨-, move⟩ := Option.ite_none_right_eq_some.1 move
    exact Option.some.inj move ▸ rfl
  | line | ask | drop | host | answers => exact Option.some.inj move ▸ rfl

lemma World.fixtures_of_move {m : Move} {w' : World} (move : m.outcome? w = some w') :
    w'.zone = w.zone ∧ w'.config = w.config := by
  by_cases set : ∃ millis, m = .clock millis
  · obtain ⟨millis, rfl⟩ := set
    obtain rfl := Option.some.inj move
    exact ⟨rfl, rfl⟩
  · have same := Move.fixtures move (not_exists.1 set)
    exact ⟨congrArg Fixtures.zone same, congrArg Fixtures.config same⟩

end TunnelKeeper.Coordinator
