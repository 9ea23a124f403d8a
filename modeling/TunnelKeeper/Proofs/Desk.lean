import TunnelKeeper.Proofs.Turn

/-!
Tokens and who looks them up. The desk of a world is what matters to callers for tokens: the locks
of the tokens, the tokens that are kept, where each caller stands, and the keys that have been sent.
A caller comes to the lock, asks for a token or leaves; everybody else leaves the desk as it is.
-/

namespace TunnelKeeper.Coordinator

open World Cooperative

/-! ### Visits -/

/-- Where a caller for a token stands: for which load cycle, and at which point. -/
abbrev Visit := CycleId × RefreshPoint

/-- A request for a token that is under way. -/
structure Request where
  caller : TaskId
  cycle : CycleId
  key : KeyId
  call : Call (Except BackendError Grant)
  deadline : Nat

namespace Request

variable (r : Request)

def point : RefreshPoint := .request r.key r.call r.deadline

/-- Where its caller stands. -/
def visit : Visit := (r.cycle, r.point)

/-- What its caller comes back with, if it goes on now. -/
def answer (w : World) : Progress RefreshPoint Refresh.Answer :=
  (Refresh.resume r.caller r.cycle r.point w).2

end Request

def Attempt.visit? (a : Attempt) : Option Visit :=
  match a.step with
  | .refresh p => some (a.active.registration, p)
  | _ => none

def GuardPoint.visit? : GuardPoint → Option Visit
  | attempt a => a.visit?
  | _ => none

/-- Where a task stands that looks up a token, if it does. -/
def Task.visit? : Task → Option Visit
  | refresh _ c p => some (c, p)
  | lookUp _ c => some (c, .lock)
  | connect _ a => a.visit?
  | autoconnect a => a.visit?
  | guard _ p => p.visit?
  | _ => none

/-- Where a program stands that has come so far. -/
def Progress.visit? {P R : Type} (f : P → Option Visit) : Progress P R → Option Visit
  | wait p => f p
  | done _ => none
  | panic => none

/-! ### Desks -/

/-- What matters to callers for tokens. -/
structure Desk where
  lock : CycleId → Lock
  kept : CycleId → Option Token
  visit : TaskId → Option Visit
  /-- The keys that have been sent with requests, the latest first. -/
  sent : List KeyId

namespace Desk

variable (d : Desk)

/-- The caller gives the lock back, or stops waiting for it. -/
def leave (c : CycleId) (t : TaskId) : Desk :=
  { d with lock := Function.update d.lock c ((d.lock c).leave t).1 }

/-- The caller stands elsewhere. -/
def pass (t : TaskId) (v : Option Visit) : Desk :=
  { d with visit := Function.update d.visit t v }

/-- The caller waits for the answer to its request. -/
def Awaits (r : Request) : Prop := d.visit r.caller = some r.visit

end Desk

/-- The key that is sent with a request for a token. -/
def Event.key? : Event → Option KeyId
  | token key => some key
  | _ => none

namespace World

/-- The token that is kept for a load cycle. -/
def kept (w : World) (c : CycleId) : Option Token := w.cycle? c >>= (·.token)

/-- Where a task stands that looks up a token. -/
def visit (w : World) (t : TaskId) : Option Visit := w.schedule.point? t >>= Task.visit?

/-- The keys that have been sent with requests, the latest first. -/
def sent (w : World) : List KeyId := (w.trace.map Prod.snd).filterMap Event.key?

def desk (w : World) : Desk := ⟨w.tokenLock, w.kept, w.visit, w.sent⟩

variable (w : World)

lemma visit_of_point? {w : World} {t : TaskId} {task : Task}
    (here : w.schedule.point? t = some task) : w.visit t = task.visit? := by
  rw [visit, here]
  rfl

/-! #### Tasks and slots -/

lemma wakeOption_eq (t : Option TaskId) : w.wakeOption t =
    { w with schedule := { w.schedule with queue := (w.wakeOption t).schedule.queue } } := by
  cases t with
  | none => rfl
  | some t => exact congrArg (fun s => { w with schedule := s }) (w.schedule.wake_eq t)

lemma desk_wakeOption (t : Option TaskId) : (w.wakeOption t).desk = w.desk := by
  rw [wakeOption_eq]
  rfl

lemma desk_spawn {task : Task} (idle : task.visit? = none) : (w.spawn task).desk = w.desk := by
  have visit : (w.spawn task).visit = w.visit := by
    funext t
    unfold World.visit spawn
    rw [Schedule.point?_spawn]
    cases w.schedule.point? t with
    | some p => rfl
    | none =>
      by_cases new : t = w.schedule.next
      · rw [if_pos new]
        exact idle
      · rw [if_neg new]
        rfl
  exact congrArg (Desk.mk w.tokenLock w.kept · w.sent) visit

lemma desk_removeTask (t : TaskId) :
    ({ w with schedule := w.schedule.removeTask t } : World).desk = w.desk.pass t none := by
  refine congrArg (Desk.mk w.tokenLock w.kept · w.sent) ?_
  funext u
  show (w.schedule.removeTask t).point? u >>= Task.visit? = Function.update w.visit t none u
  rw [Schedule.point?_removeTask, Function.update_apply]
  split <;> rfl

lemma desk_moveTask (t : TaskId) (task : Task) :
    ({ w with schedule := w.schedule.moveTask t task } : World).desk =
      w.desk.pass t task.visit? := by
  refine congrArg (Desk.mk w.tokenLock w.kept · w.sent) ?_
  funext u
  show (w.schedule.moveTask t task).point? u >>= Task.visit? =
    Function.update w.visit t task.visit? u
  rw [Schedule.point?_moveTask, Function.update_apply]
  split <;> rfl

/-! #### Load cycles -/

lemma cycle?_modifyCycle (c c' : CycleId) (f : LoadCycle → LoadCycle) :
    (w.modifyCycle c f).cycle? c' = if c' = c then (w.cycle? c).map f else w.cycle? c' := by
  unfold cycle? modifyCycle
  rw [List.getElem?_modify]
  by_cases same : c' = c
  · simp [same]
  · simp [same, Ne.symm same]

lemma tokenLock_modifyCycle (c : CycleId) (f : LoadCycle → LoadCycle) :
    (w.modifyCycle c f).tokenLock = Function.update w.tokenLock c
      (((w.cycle? c).map fun cycle => (f cycle).tokenLock).getD {}) := by
  funext c'
  unfold tokenLock
  rw [cycle?_modifyCycle]
  by_cases same : c' = c
  · rw [if_pos same, same, Function.update_self, Option.map_map]
    rfl
  · rw [if_neg same, Function.update_of_ne same]

lemma kept_modifyCycle (c : CycleId) (f : LoadCycle → LoadCycle) :
    (w.modifyCycle c f).kept =
      Function.update w.kept c (w.cycle? c >>= fun cycle => (f cycle).token) := by
  funext c'
  unfold kept
  rw [cycle?_modifyCycle]
  by_cases same : c' = c
  · rw [if_pos same, same, Function.update_self]
    cases w.cycle? c <;> rfl
  · rw [if_neg same, Function.update_of_ne same]

/-- The certificate does not matter here. -/
lemma desk_modifyCycle (c : CycleId) {f : LoadCycle → LoadCycle}
    (lock : ∀ cycle, (f cycle).tokenLock = cycle.tokenLock)
    (token : ∀ cycle, (f cycle).token = cycle.token) : (w.modifyCycle c f).desk = w.desk := by
  unfold desk
  rw [tokenLock_modifyCycle, kept_modifyCycle]
  simp only [lock, token]
  congr 1
  · exact Function.update_eq_self c w.tokenLock
  · exact Function.update_eq_self c w.kept

lemma desk_createAuthority (identity : InstanceIdentity) :
    (w.createAuthority identity).2.desk = w.desk := by
  have cycle (c : CycleId) : (w.createAuthority identity).2.cycle? c = w.cycle? c ∨
      w.cycle? c = none ∧
        (w.createAuthority identity).2.cycle? c = some { identity := identity } := by
    unfold createAuthority cycle?
    by_cases old : c < w.cycles.length
    · exact .inl (List.getElem?_append_left old)
    · have late := Nat.le_of_not_lt old
      by_cases new : c = w.cycles.length
      · subst new
        exact .inr ⟨List.getElem?_eq_none late, List.getElem?_concat_length⟩
      · left
        rw [List.getElem?_eq_none late, List.getElem?_eq_none]
        rw [List.length_append, List.length_singleton]
        exact Nat.lt_of_le_of_ne late (Ne.symm new)
  have lock : (w.createAuthority identity).2.tokenLock = w.tokenLock := by
    funext c
    unfold tokenLock
    rcases cycle c with same | ⟨absent, new⟩
    · rw [same]
    · rw [absent, new]
      rfl
  have kept : (w.createAuthority identity).2.kept = w.kept := by
    funext c
    unfold World.kept
    rcases cycle c with same | ⟨absent, new⟩
    · rw [same]
    · rw [absent, new]
      rfl
  exact congrArg₂ (Desk.mk · · w.visit w.sent) lock kept

/-- A caller comes to the lock. It is not there for a load cycle that is not there. -/
lemma desk_enterTokenLock (c : CycleId) (t : TaskId) : (w.enterTokenLock c t).desk =
    { w.desk with
      lock := Function.update w.tokenLock c
        (((w.cycle? c).map fun cycle => cycle.tokenLock.enter t).getD {}) } := by
  unfold enterTokenLock desk
  rw [tokenLock_modifyCycle, kept_modifyCycle]
  congr 1
  exact Function.update_eq_self c w.kept

lemma desk_leaveTokenLock (c : CycleId) (t : TaskId) :
    (w.leaveTokenLock c t).desk = w.desk.leave c t := by
  unfold leaveTokenLock
  rw [desk_wakeOption]
  unfold desk Desk.leave
  rw [tokenLock_modifyCycle, kept_modifyCycle]
  congr 1
  · refine congrArg (Function.update w.tokenLock c) ?_
    show _ = ((w.tokenLock c).leave t).1
    rw [tokenLock]
    cases w.cycle? c <;> rfl
  · exact Function.update_eq_self c w.kept

end World

lemma Refresh.desk_keep (c : CycleId) (new : Token) (w : World) : (keep c new w).desk =
    { w.desk with kept := Function.update w.kept c ((w.cycle? c).map fun _ => new) } := by
  unfold keep desk
  rw [tokenLock_modifyCycle, kept_modifyCycle]
  congr 1
  · exact Function.update_eq_self c w.tokenLock
  · cases w.cycle? c <;> rfl

end TunnelKeeper.Coordinator
