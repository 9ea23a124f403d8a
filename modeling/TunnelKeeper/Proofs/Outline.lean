import TunnelKeeper.Coordinator.Move
import TunnelKeeper.Proofs.Schedule

/-!
The outline of a world: what the life of a backend depends on, without clocks, scripts, queues,
certificates and tokens. Every operation on a world has its counterpart on the outline, and most
operations leave the outline as it is.
-/

namespace TunnelKeeper.Coordinator

/-! ### Owners and jobs -/

/-- On whose behalf a task runs. -/
inductive Owner where
  /-- Somebody who asked, or nobody any more. -/
  | caller
  | handler
  | guard (generation : Nat)
  deriving DecidableEq

def Owner.isGuard : Owner → Bool
  | guard _ => true
  | _ => false

/-- The program that a task is in the middle of. -/
inductive Job where
  /-- None that has to do with the life of a backend. -/
  | rest
  /-- It has been asked to take the backend away, and the handler with it. -/
  | close
  /-- It has been asked to disconnect. -/
  | hangUp
  | load (point : LoadPoint)
  | setup (point : SetupPoint)
  | teardown (point : TeardownPoint)
  | attempt (attempt : Attempt)
  | disconnect (point : DisconnectPoint)

def Operation.job : Operation → Job
  | close => .close
  | stop => .close
  | disconnect => .hangUp
  | _ => .rest

def CheckPoint.job : CheckPoint → Job
  | load point => .load point
  | issue _ _ _ _ => .rest
  | teardown point => .teardown point
  | settle _ => .rest
  | reload point => .load point

def HandlerPoint.job : HandlerPoint → Job
  | start => .rest
  | sleep _ => .rest
  | check point => point.job

def GuardPoint.job : GuardPoint → Job
  | start => .rest
  | watch _ => .rest
  | sleep _ => .rest
  | attempt a => .attempt a

namespace Task

def owner : Task → Owner
  | handler _ => .handler
  | guard generation _ => .guard generation
  | _ => .caller

def job : Task → Job
  | asked _ operation => operation.job
  | load _ point => .load point
  | teardown _ point => .teardown point
  | connect _ a => .attempt a
  | disconnect _ point => .disconnect point
  | check _ point => point.job
  | refresh _ _ _ => .rest
  | lookUp _ _ => .rest
  | startLoad => .rest
  | detachedLoad point => .load point
  | setup point => .setup point
  | autostart => .rest
  | autoconnect a => .attempt a
  | handler point => point.job
  | guard _ point => point.job

end Task

/-- The job of a task that may be over. -/
def jobOf (task : Option Task) : Job := (task.map Task.job).getD .rest

/-- The generation that a load works for. -/
def LoadPoint.generation : LoadPoint → Nat
  | register generation _ _ => generation
  | certificate generation _ _ => generation
  | reset generation _ _ => generation

/-- The tunnel that setup starts or discards. -/
def SetupPoint.tunnel? (p : SetupPoint) : Option TunnelId :=
  match p.step with
  | .startTunnel n _ => some n
  | .discard n _ => some n
  | _ => none

namespace AttemptStep

/-- The call that the step waits for will connect the tunnel; whether the connection stays up. -/
def success? : AttemptStep → Option Bool
  | connect ⟨_, .ok lasting⟩ => some lasting
  | _ => none

/-- The attempt may end here without having connected the tunnel. -/
def mayFail : AttemptStep → Bool
  | connect ⟨_, .ok _⟩ => false
  | undo _ => false
  | _ => true

end AttemptStep

/-! #### How far a job still has to go -/

/-- How many points are left to a load at most. -/
def LoadPoint.rank : LoadPoint → Nat
  | register _ _ _ => 2
  | certificate _ _ _ => 1
  | reset _ _ _ => 0

/-- How many points are left to a setup at most, once the host's runtime is there. -/
def SetupStep.rank : SetupStep → Nat
  | start => 5
  | issue _ => 4
  | harden _ => 3
  | pause _ => 3
  | build _ => 2
  | startTunnel _ _ => 1
  | discard _ _ => 0

def Job.rank : Job → Nat
  | load p => p.rank
  | setup p => p.step.rank
  | _ => 0

/-! #### Tasks at a job -/

namespace Operation

variable {operation : Operation}

lemma job_eq_close : operation.job = .close ↔ operation = .close ∨ operation = .stop := by
  cases operation <;> simp [job]

lemma job_eq_hangUp : operation.job = .hangUp ↔ operation = .disconnect := by
  cases operation <;> simp [job]

end Operation

lemma CheckPoint.job_cases (p : CheckPoint) :
    p.job = .rest ∨ (∃ q, p.job = .load q) ∨ ∃ q, p.job = .teardown q := by
  cases p <;> simp [job]

lemma HandlerPoint.job_cases (p : HandlerPoint) :
    p.job = .rest ∨ (∃ q, p.job = .load q) ∨ ∃ q, p.job = .teardown q := by
  cases p with
  | check p => exact p.job_cases
  | _ => exact .inl rfl

namespace Task

variable {task : Task}

lemma asked_of_job (h : task.job = .close ∨ task.job = .hangUp) :
    ∃ entry operation, task = .asked entry operation := by
  cases task with
  | asked entry operation => exact ⟨entry, operation, rfl⟩
  | check _ p => rcases p.job_cases with eq | ⟨q, eq⟩ | ⟨q, eq⟩ <;> simp [job, eq] at h
  | handler p => rcases p.job_cases with eq | ⟨q, eq⟩ | ⟨q, eq⟩ <;> simp [job, eq] at h
  | guard _ p => cases p <;> simp [job, GuardPoint.job] at h
  | _ => simp [job] at h

lemma eq_setup_of_job {p : SetupPoint} (h : task.job = .setup p) : task = .setup p := by
  cases task with
  | setup q => rw [Job.setup.inj h]
  | asked _ operation => cases operation <;> simp [job, Operation.job] at h
  | check _ p => rcases p.job_cases with eq | ⟨q, eq⟩ | ⟨q, eq⟩ <;> simp [job, eq] at h
  | handler p => rcases p.job_cases with eq | ⟨q, eq⟩ | ⟨q, eq⟩ <;> simp [job, eq] at h
  | guard _ q => cases q <;> simp [job, GuardPoint.job] at h
  | _ => simp [job] at h

/-- Attempts to connect are made for a caller, after a start, or by a guard. -/
lemma eq_of_attempt {a : Attempt} (h : task.job = .attempt a) :
    (∃ entry, task = .connect entry a) ∨ task = .autoconnect a ∨ ∃ g, task = .guard g (.attempt a) := by
  cases task with
  | connect entry b => exact .inl ⟨entry, by rw [Job.attempt.inj h]⟩
  | autoconnect b => exact .inr (.inl (by rw [Job.attempt.inj h]))
  | guard g p =>
    cases p with
    | attempt b => exact .inr (.inr ⟨g, by rw [Job.attempt.inj h]⟩)
    | _ => simp [job, GuardPoint.job] at h
  | asked _ operation => cases operation <;> simp [job, Operation.job] at h
  | check _ p => rcases p.job_cases with eq | ⟨q, eq⟩ | ⟨q, eq⟩ <;> simp [job, eq] at h
  | handler p => rcases p.job_cases with eq | ⟨q, eq⟩ | ⟨q, eq⟩ <;> simp [job, eq] at h
  | _ => simp [job] at h

lemma wait_of_load {p : LoadPoint} (h : task.job = .load p) : ∃ due, task.wait = .time due := by
  have timed (q : LoadPoint) : ∃ due, q.wait = .time due := by
    cases q <;> exact ⟨_, rfl⟩
  have checked (q : CheckPoint) (h : q.job = .load p) : ∃ due, q.wait = .time due := by
    cases q with
    | load q | reload q => exact timed q
    | _ => simp [CheckPoint.job] at h
  cases task with
  | load _ q | detachedLoad q => exact timed q
  | asked _ operation => cases operation <;> simp [job, Operation.job] at h
  | check _ q => exact checked q h
  | handler q =>
    cases q with
    | check q => exact checked q h
    | _ => simp [job, HandlerPoint.job] at h
  | guard _ q => cases q <;> simp [job, GuardPoint.job] at h
  | _ => simp [job] at h

end Task

/-- The events by which the life of a backend is told: registrations, what is done to tunnels,
signals and messages. -/
def Event.marked : Event → Bool
  | register => true
  | startTunnel _ => true
  | stopTunnel _ => true
  | connectTunnel _ _ => true
  | disconnectTunnel _ => true
  | signal _ => true
  | message _ => true
  | _ => false

/-! ### Rosters -/

/-- The tasks: for whom each runs, what it does, and the number of the next one. -/
structure Roster where
  owner : TaskId → Option Owner
  job : TaskId → Job
  next : TaskId

namespace Roster

variable (r : Roster)

def spawn (o : Owner) (x : Job) : Roster where
  owner t := (r.owner t).or (if t = r.next then some o else none)
  job t := if r.owner t = none ∧ t = r.next then x else r.job t
  next := r.next + 1

/-- A task is at another job. -/
def pass (t : TaskId) (x : Job) : Roster := { r with job := Function.update r.job t x }

/-- A task is there no more. -/
def remove (t : TaskId) : Roster :=
  { r.pass t .rest with owner := Function.update r.owner t none }

variable {r} {t u : TaskId}

@[simp]
lemma job_pass_self (x : Job) : (r.pass t x).job t = x := Function.update_self ..

lemma job_pass_of_ne (other : u ≠ t) (x : Job) : (r.pass t x).job u = r.job u :=
  Function.update_of_ne other ..

@[simp]
lemma owner_remove_self : (r.remove t).owner t = none := Function.update_self ..

lemma owner_remove_of_ne (other : u ≠ t) : (r.remove t).owner u = r.owner u :=
  Function.update_of_ne other ..

lemma of_owner_remove {o : Owner} (own : (r.remove t).owner u = some o) :
    u ≠ t ∧ r.owner u = some o := by
  have other : u ≠ t := by
    rintro rfl
    cases owner_remove_self.symm.trans own
  exact ⟨other, (owner_remove_of_ne other).symm.trans own⟩

end Roster

/-! ### Outlines -/

structure Outline extends Roster where
  state : State
  handlerSlot : TaskSlot
  guardSlot : TaskSlot
  connectLock : Lock
  tunnels : List Tunnel
  runtimeReady : Bool
  /-- The marked events, the latest first. -/
  events : List Event

namespace Outline

variable (c : Outline)

def hear (e : Event) : Outline := { c with events := e :: c.events }

def hearIf (b : Bool) (e : Event) : Outline := if b then c.hear e else c

def spawn (o : Owner) (x : Job) : Outline := { c with toRoster := c.toRoster.spawn o x }

def delegateIf (b : Bool) : Outline := if b then c.spawn .caller .rest else c

def startHandler : Outline :=
  if c.handlerSlot.isRunning then c
  else { c.spawn .handler .rest with handlerSlot := c.handlerSlot.occupy c.next }

def startGuard (generation : Nat) : Outline :=
  if (c.state.activeFor? generation).isNone || c.guardSlot.isRunning then c
  else { c.spawn (.guard generation) .rest with guardSlot := c.guardSlot.occupy c.next }

def cancelHandler : Outline := { c with handlerSlot := c.handlerSlot.cancel }

def cancelGuard : Outline := { c with guardSlot := c.guardSlot.cancel }

def isCancelled (t : TaskId) : Bool := c.handlerSlot.isCancelled t || c.guardSlot.isCancelled t

def isConnected (n : TunnelId) : Bool := (c.tunnels[n]?).any (·.connected)

def addTunnel (params : TunnelParams) : Outline :=
  { c with tunnels := c.tunnels ++ [{ params := params }] }

def modifyTunnel (n : TunnelId) (f : Tunnel → Tunnel) : Outline :=
  { c with tunnels := c.tunnels.modify n f }

def setStage (n : TunnelId) (stage : TunnelStage) : Outline :=
  c.modifyTunnel n fun tunnel => { tunnel with stage := stage }

def setConnected (n : TunnelId) (connected : Bool) : Outline :=
  c.modifyTunnel n fun tunnel => { tunnel with connected := connected }

/-- A tunnel is connected, unless the connection is lost again at once. -/
def connect (n : TunnelId) (lasting : Bool) : Outline :=
  if lasting then c.setConnected n true else c

/-- A load begins. -/
def begin : Outline :=
  { c with state := ⟨c.state.generation + 1, .registering⟩ }.startHandler.hear .register

/-- The backend is taken away, and who works for it in the background is cancelled. -/
def take (withHandler : Bool) : Outline :=
  let c := { c with state := c.state.take.2 }.cancelGuard
  if withHandler then c.cancelHandler else c

/-- An attempt to connect is over. -/
def endAttempt (t : TaskId) (a : Attempt) : Outline :=
  let c := { c with connectLock := (c.connectLock.leave t).1 }
  if a.guarded then c else c.startGuard a.active.generation

def pass (t : TaskId) (x : Job) : Outline := { c with toRoster := c.toRoster.pass t x }

def remove (t : TaskId) : Outline := { c with toRoster := c.toRoster.remove t }

/-- A task is over, and a slot that it was in is empty. -/
def finish (t : TaskId) : Outline :=
  { c.remove t with
    handlerSlot := c.handlerSlot.finish t
    guardSlot := c.guardSlot.finish t }

end Outline

/-! ### The outline of a world -/

namespace World

def outline (w : World) : Outline where
  state := w.state
  handlerSlot := w.handlerSlot
  guardSlot := w.guardSlot
  connectLock := w.connectLock
  tunnels := w.tunnels
  runtimeReady := w.runtimeReady
  owner t := (w.schedule.point? t).map Task.owner
  job t := jobOf (w.schedule.point? t)
  next := w.schedule.next
  events := (w.trace.map Prod.snd).filter Event.marked

variable (w : World)

lemma outline_notice (n : Notice) : (w.notice n).outline = w.outline := rfl

lemma outline_signal (e : RemoteEvent) :
    (w.signal e).outline = w.outline.hear (.signal e) := rfl

lemma outline_withState (s : State) :
    ({ w with state := s } : World).outline = { w.outline with state := s } := rfl

/-! #### Tasks and slots -/

lemma outline_spawn (task : Task) :
    (w.spawn task).outline = w.outline.spawn task.owner task.job := by
  simp only [outline, spawn, Outline.spawn, Roster.spawn, Schedule.point?_spawn]
  congr 2 <;> funext t <;> by_cases h : t = w.schedule.next
  · cases w.schedule.point? t <;> simp [h]
  · simp [h]
  · by_cases free : w.schedule.point? t = none
    · simp [h ▸ free, h, jobOf]
    · obtain ⟨p, hp⟩ := Option.ne_none_iff_exists'.1 free
      simp [h ▸ hp, h, jobOf]
  · simp [h]

lemma outline_wake (t : TaskId) : (w.wake t).outline = w.outline := by
  unfold wake
  rw [Schedule.wake_eq]
  rfl

lemma outline_wakeOption (t : Option TaskId) : (w.wakeOption t).outline = w.outline := by
  cases t with
  | none => rfl
  | some t => exact w.outline_wake t

lemma outline_startHandler : w.startHandler.outline = w.outline.startHandler := by
  unfold startHandler Outline.startHandler
  by_cases h : w.handlerSlot.isRunning
  · rw [if_pos h, if_pos (by exact h)]
  · rw [if_neg h, if_neg (by exact h), show w.outline.spawn .handler .rest =
      (w.spawn (.handler .start)).outline from (w.outline_spawn (.handler .start)).symm]
    rfl

lemma outline_startGuard (generation : Nat) :
    (w.startGuard generation).outline = w.outline.startGuard generation := by
  unfold startGuard Outline.startGuard
  by_cases h : (w.state.activeFor? generation).isNone || w.guardSlot.isRunning
  · rw [if_pos h, if_pos (by exact h)]
  · rw [if_neg h, if_neg (by exact h), show w.outline.spawn (.guard generation) .rest =
      (w.spawn (.guard generation .start)).outline from
        (w.outline_spawn (.guard generation .start)).symm]
    rfl

lemma outline_cancelHandler : w.cancelHandler.outline = w.outline.cancelHandler :=
  outline_wakeOption _ _

lemma outline_cancelGuard : w.cancelGuard.outline = w.outline.cancelGuard :=
  outline_wakeOption _ _

/-! #### Tunnels and locks -/

lemma outline_setConnected (n : TunnelId) (connected : Bool) :
    (w.setConnected n connected).outline = w.outline.setConnected n connected := by
  unfold setConnected
  rw [Schedule.wakeWhere_eq]
  rfl

lemma outline_leaveConnectLock (t : TaskId) :
    (w.leaveConnectLock t).outline =
      { w.outline with connectLock := (w.connectLock.leave t).1 } := by
  unfold leaveConnectLock
  rw [outline_wakeOption]
  rfl

lemma outline_leaveTokenLock (c : CycleId) (t : TaskId) :
    (w.leaveTokenLock c t).outline = w.outline := by
  unfold leaveTokenLock
  rw [outline_wakeOption]
  rfl

/-! #### Calls -/

lemma outline_createAuthority (identity : InstanceIdentity) :
    (w.createAuthority identity).2.outline = w.outline := rfl

lemma outline_callLoad : w.callLoad.2.outline = w.outline := rfl

lemma outline_callRegister : w.callRegister.2.outline = w.outline.hear .register := rfl

lemma outline_callStop (n : TunnelId) :
    (w.callStop n).2.outline = (w.outline.setStage n .stopping).hear (.stopTunnel n) := rfl

lemma outline_callDisconnect (n : TunnelId) :
    (w.callDisconnect n).2.outline = w.outline.hear (.disconnectTunnel n) := rfl

lemma outline_stopArrived (n : TunnelId) :
    (w.stopArrived n).outline = (w.outline.setStage n .stopped).setConnected n false :=
  outline_setConnected _ _ _

lemma outline_connectArrived (n : TunnelId) (lasting : Bool) :
    (w.connectArrived n lasting).outline = w.outline.connect n lasting := by
  cases lasting with
  | false => rfl
  | true => exact outline_setConnected _ _ _

/-! #### Turns -/

lemma outline_moveTask (t : TaskId) (task : Task) (own : w.outline.owner t = some task.owner) :
    { w with schedule := w.schedule.moveTask t task }.outline = w.outline.pass t task.job := by
  simp only [outline, Outline.pass, Roster.pass, Schedule.point?_moveTask]
  congr 2 <;> funext u <;> by_cases h : u = t
  · rw [if_pos h, h]
    exact own.symm
  · rw [if_neg h]
  · rw [if_pos h, h, Function.update_self]
    rfl
  · rw [if_neg h, Function.update_of_ne h]

lemma outline_removeTask (t : TaskId) :
    { w with schedule := w.schedule.removeTask t }.outline = w.outline.remove t := by
  simp only [outline, Outline.remove, Roster.remove, Roster.pass, Schedule.point?_removeTask]
  congr 2 <;> funext u <;> by_cases h : u = t
  · rw [if_pos h, h, Function.update_self]
    rfl
  · rw [if_neg h, Function.update_of_ne h]
  · rw [if_pos h, h, Function.update_self]
    rfl
  · rw [if_neg h, Function.update_of_ne h]

lemma outline_endTask (t : TaskId) :
    (endTask t { w with schedule := w.schedule.removeTask t }).outline = w.outline.finish t := by
  unfold Outline.finish
  rw [← outline_removeTask]
  rfl

end World

end TunnelKeeper.Coordinator
