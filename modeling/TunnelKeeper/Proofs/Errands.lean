import TunnelKeeper.Proofs.Attempts
import TunnelKeeper.Proofs.Footprints

/-!
What a task does at the desk between two of its points. Loads, setups and teardowns have no business
there; a caller for a token comes to the lock, asks for a token, keeps the one it has been granted,
or leaves.
-/

namespace TunnelKeeper.Coordinator

open World Cooperative

/-! ### Errands -/

/-- Between two of its points, the task `t` goes from one place at the desk to another and changes
the desk. It may have been dropped, which ends its visit. -/
inductive Errand (t : TaskId) (dropped : Bool) (w : World) :
    Option Visit → Desk → Option Visit → Prop where
  /-- The task has no business there. -/
  | apart : Errand t dropped w none w.desk none
  | enter (c : CycleId) : Errand t dropped w none (w.enterTokenLock c t).desk (some (c, .lock))
  /-- A caller leaves with the token that was there, with an error, or because it has been
  dropped. -/
  | leave {c : CycleId} {p : RefreshPoint}
      (why : p = .lock ∨ dropped = true ∨ ∃ e, (Refresh.resume t c p w).2 = .done (.error e)) :
      Errand t dropped w (some (c, p)) (w.desk.leave c t) none
  /-- No valid token is kept, so a new one is asked for. -/
  | ask {c : CycleId} (call : Call (Except BackendError Grant)) (deadline : Nat)
      (live : dropped = false) (unusable : Refresh.kept? c w = none) :
      Errand t dropped w (some (c, .lock)) { w.desk with sent := w.keys :: w.sent }
        (some (c, .request w.keys call deadline))
  /-- A token has been granted and is kept. -/
  | keep {c : CycleId} {key : KeyId} {call : Call (Except BackendError Grant)} {deadline : Nat}
      (new : Token) (live : dropped = false)
      (granted : (Refresh.resume t c (.request key call deadline) w).2 = .done (.ok new)) :
      Errand t dropped w (some (c, .request key call deadline))
        ((Refresh.keep c new w).desk.leave c t) none

namespace Errand

variable {t : TaskId} {b : Bool} {w : World} {v v' : Option Visit} {d : Desk}

lemma visit_eq (errand : Errand t b w v d v') : d.visit = w.visit := by
  cases errand with
  | enter c => exact congrArg Desk.visit (w.desk_enterTokenLock c t)
  | @keep c _ _ _ new => exact congrArg Desk.visit (Refresh.desk_keep c new w)
  | _ => rfl

lemma sent_cases (errand : Errand t b w v d v') : d.sent = w.sent ∨
    ∃ r : Request, r.caller = t ∧ v = some (r.cycle, .lock) ∧ b = false ∧
      Refresh.kept? r.cycle w = none ∧ d.sent = r.key :: w.sent ∧ v' = some r.visit := by
  cases errand with
  | enter c => exact .inl (congrArg Desk.sent (w.desk_enterTokenLock c t))
  | @ask c call deadline live unusable =>
    exact .inr ⟨⟨t, c, w.keys, call, deadline⟩, rfl, rfl, live, unusable, rfl, rfl⟩
  | @keep c _ _ _ new => exact .inl (congrArg Desk.sent (Refresh.desk_keep c new w))
  | _ => exact .inl rfl

lemma kept_cases (errand : Errand t b w v d v') : d.kept = w.kept ∨
    ∃ (r : Request) (new : Token), r.caller = t ∧ v = some r.visit ∧ b = false ∧
      r.answer w = .done (.ok new) ∧
      d.kept = Function.update w.kept r.cycle ((w.cycle? r.cycle).map fun _ => new) := by
  cases errand with
  | enter c => exact .inl (congrArg Desk.kept (w.desk_enterTokenLock c t))
  | @keep c key call deadline new live granted =>
    exact .inr ⟨⟨t, c, key, call, deadline⟩, new, rfl, rfl, live, granted,
      congrArg Desk.kept (Refresh.desk_keep c new w)⟩
  | _ => exact .inl rfl

/-- A request is granted, or it fails, or its caller is dropped; then all is as it was. -/
lemma of_request {r : Request} (errand : Errand r.caller b w (some r.visit) d v') :
    (d.kept = w.kept ∧ (b = true ∨ ∃ e, r.answer w = .done (.error e))) ∨
      ∃ new, b = false ∧ r.answer w = .done (.ok new) ∧
        d.kept = Function.update w.kept r.cycle ((w.cycle? r.cycle).map fun _ => new) := by
  obtain ⟨t, c, key, call, deadline⟩ := r
  generalize there : Request.visit _ = v at errand
  cases errand with
  | leave why =>
    cases there
    rcases why with lock | why
    · cases lock
    · exact .inl ⟨rfl, why⟩
  | keep new live granted =>
    cases there
    exact .inr ⟨new, live, granted, congrArg Desk.kept (Refresh.desk_keep c new w)⟩
  | ask => cases there

lemma of_touches {P R : Type} {turn : Turn P R} {f : P → Option Visit}
    (touches : w.Touches .office turn.1) (nowhere : turn.2.visit? f = none) :
    Errand t b w none turn.1.desk (turn.2.visit? f) := by
  rw [touches.desk nofun, nowhere]
  exact .apart

lemma of_apart {P R : Type} {turn : Turn P R} (touches : w.Touches .office turn.1) :
    Errand t b w none turn.1.desk (turn.2.visit? fun _ => none) := by
  refine of_touches touches ?_
  obtain ⟨u, _ | _ | _⟩ := turn <;> rfl

end Errand

variable (t : TaskId)

/-! ### Callers for tokens -/

namespace Refresh

variable {dropped : Bool}

lemma errand_start (c : CycleId) (w : World) :
    Errand t dropped w none (start t c w).1.desk ((start t c w).2.visit? fun p => some (c, p)) :=
  .enter c

lemma errand_resume (c : CycleId) (p : RefreshPoint) (w : World) (live : dropped = false) :
    Errand t dropped w (some (c, p)) (resume t c p w).1.desk
      ((resume t c p w).2.visit? fun p => some (c, p)) := by
  have failed (e : BackendError) (same : resume t c p w = leave t c (.error e) w) :
      Errand t dropped w (some (c, p)) (resume t c p w).1.desk
        ((resume t c p w).2.visit? fun p => some (c, p)) := by
    have errand : Errand t dropped w (some (c, p)) (w.desk.leave c t) none :=
      .leave (.inr (.inr ⟨e, congrArg Prod.snd same⟩))
    rw [same, leave, desk_leaveTokenLock]
    exact errand
  cases p with
  | lock =>
    rw [resume]
    split
    · rw [leave, desk_leaveTokenLock]
      exact .leave (.inl rfl)
    · next unusable => exact .ask _ _ live unusable
  | request key call deadline =>
    by_cases due : call.due ≤ w.now
    · cases had : w.tokenOf key call.answer with
      | error e => exact failed e (by rw [resume, if_pos due, had])
      | ok new =>
        have resumed : resume t c (.request key call deadline) w =
            leave t c (.ok new) (keep c new w) := by
          rw [resume, if_pos due, had]
        have errand : Errand t dropped w (some (c, .request key call deadline))
            ((keep c new w).desk.leave c t) none := .keep new live (congrArg Prod.snd resumed)
        rw [resumed, leave, desk_leaveTokenLock]
        exact errand
    · exact failed _ (by rw [resume, if_neg due])

end Refresh

lemma Lookup.errand_resume {dropped : Bool} (c : CycleId) (w : World) :
    Errand t dropped w (some (c, .lock)) (resume t c w).1.desk none := by
  unfold resume
  rw [desk_leaveTokenLock]
  exact .leave (.inl rfl)

namespace Connect

lemma desk_finish (a : Attempt) (w : World) : (finish t a w).1.desk = w.desk :=
  (touches_finish (f := .plain) t w a).desk nofun

lemma visit_start (guarded : Bool) (w : World) :
    (start t guarded w).2.visit? Attempt.visit? = none := by
  unfold start
  split
  · rfl
  · split <;> rfl

lemma visit_request (caller : String) (w : World) :
    (request t caller w).2.visit? Attempt.visit? = none := by
  unfold request
  split
  · rfl
  · split
    · rfl
    · exact visit_start t false (w.notice _)

lemma errand_refreshed {dropped : Bool} {a : Attempt} {v : Option Visit} {w : World}
    (turn : Turn RefreshPoint Refresh.Answer)
    (errand : Errand t dropped w v turn.1.desk
      (turn.2.visit? fun p => some (a.active.registration, p))) :
    Errand t dropped w v (refreshed t a turn).1.desk
      ((refreshed t a turn).2.visit? Attempt.visit?) := by
  obtain ⟨u, progress⟩ := turn
  cases progress with
  | wait p => exact errand
  | done answer =>
    cases answer with
    | ok new =>
      simp only [refreshed, connect]
      split
      · exact errand
      · rw [desk_finish]
        exact errand
    | error e =>
      rw [refreshed, fail, desk_finish]
      exact errand
  | panic => exact errand

lemma errand_resume (a : Attempt) (w : World) :
    Errand t (a.guarded && w.isCancelled t) w a.visit? (resume t a w).1.desk
      ((resume t a w).2.visit? Attempt.visit?) := by
  obtain ⟨active, guarded, step⟩ := a
  have finished (a : Attempt) (v : World) (same : v.desk = w.desk) :
      Errand t (guarded && w.isCancelled t) w none (finish t a v).1.desk none := by
    rw [desk_finish, same]
    exact .apart
  cases step with
  | lock =>
    unfold resume
    dsimp only
    split
    · rw [(w.touches_leaveConnectLock t (f := .plain)).desk nofun]
      exact .apart
    · split
      · exact finished _ w rfl
      · exact errand_refreshed t _ (Refresh.errand_start t active.registration w)
  | refresh p =>
    unfold resume
    dsimp only
    split
    · next dropped =>
      rw [desk_finish, desk_leaveTokenLock]
      exact .leave (.inr (.inl dropped))
    · next live =>
      exact errand_refreshed t _
        (Refresh.errand_resume t active.registration p w (Bool.eq_false_iff.2 live))
  | connect call =>
    obtain ⟨due, answer⟩ := call
    unfold resume
    cases answer with
    | error e => exact finished _ (w.notice _) rfl
    | ok lasting =>
      have arrived : (w.connectArrived active.tunnel lasting).desk = w.desk :=
        (w.touches_connectArrived (f := .plain) active.tunnel lasting).desk nofun
      dsimp only
      split
      · rw [show (callDisconnect _ active.tunnel).2.desk = _ from arrived]
        exact .apart
      · unfold connected
        split
        · exact finished _ _ arrived
        · exact finished _ _ arrived
  | undo call =>
    exact finished _ _ ((w.touches_setConnected (f := .plain) active.tunnel false).desk nofun)

end Connect

namespace Guard

variable (g : Nat)

lemma visit_round (w : World) : (round g w).2.visit? GuardPoint.visit? = none := by
  unfold round
  split
  · rfl
  · split <;> rfl

lemma errand_attempting {dropped : Bool} {v : Option Visit} {w : World}
    (turn : Turn Attempt Result)
    (errand : Errand t dropped w v turn.1.desk (turn.2.visit? Attempt.visit?)) :
    Errand t dropped w v (attempting t g turn).1.desk
      ((attempting t g turn).2.visit? GuardPoint.visit?) := by
  obtain ⟨u, progress⟩ := turn
  cases progress with
  | wait a => exact errand
  | done result =>
    rcases attempting_done t g u result with ended | next
    · rw [ended]
      exact errand
    · rw [next, (touches_round (f := .plain) u g).desk nofun, visit_round]
      exact errand
  | panic => exact errand

/-- The guard has been cancelled in the middle of an attempt. -/
def drops (w : World) : GuardPoint → Bool
  | .attempt a => a.guarded && w.isCancelled t
  | _ => false

lemma errand_resume (p : GuardPoint) (w : World) :
    Errand t (drops t w p) w p.visit? (resume t g p w).1.desk
      ((resume t g p w).2.visit? GuardPoint.visit?) := by
  cases p with
  | start => exact .of_touches (touches_round w g) (visit_round g w)
  | watch n =>
    unfold resume
    dsimp only
    split
    · exact .apart
    · exact .apart
  | sleep due =>
    unfold resume
    dsimp only
    split
    · exact .apart
    · exact errand_attempting t g _
        (.of_touches (Connect.touches_start t w true) (Connect.visit_start t true w))
  | attempt a => exact errand_attempting t g _ (Connect.errand_resume t a w)

end Guard

/-! ### Tasks -/

namespace Task

variable {P R : Type} {t} {dropped : Bool} {v : Option Visit} {w : World}

/-- The task makes an attempt that has been cancelled. -/
def drops (t : TaskId) (w : World) (task : Task) : Bool :=
  task.attempt?.any fun a => a.guarded && w.isCancelled t

lemma errand_report {entry : Nat} {point : P → Task} {result : R → Result} {f : P → Option Visit}
    (at_point : ∀ p, (point p).visit? = f p) {turn : Turn P R}
    (errand : Errand t dropped w v turn.1.desk (turn.2.visit? f)) :
    Errand t dropped w v (report entry point result turn).1.desk
      ((report entry point result turn).2 >>= visit?) := by
  obtain ⟨u, progress⟩ := turn
  cases progress with
  | wait p =>
    show Errand t dropped w v u.desk (point p).visit?
    rw [at_point p]
    exact errand
  | done r => exact errand
  | panic => exact errand

lemma errand_goOn {point : P → Task} {f : P → Option Visit}
    (at_point : ∀ p, (point p).visit? = f p) {turn : Turn P R}
    (errand : Errand t dropped w v turn.1.desk (turn.2.visit? f)) :
    Errand t dropped w v (goOn point turn).1.desk ((goOn point turn).2 >>= visit?) := by
  obtain ⟨u, progress⟩ := turn
  cases progress with
  | wait p =>
    show Errand t dropped w v u.desk (point p).visit?
    rw [at_point p]
    exact errand
  | done r => exact errand
  | panic => exact errand

end Task

namespace Task

lemma errand_begin (entry : Nat) (operation : Operation) (w : World) :
    Errand t false w none (begin t entry operation w).1.desk
      ((begin t entry operation w).2 >>= visit?) := by
  cases operation with
  | load => exact errand_report (fun _ => rfl) (.of_apart (Load.touches_start w))
  | start =>
    unfold begin
    dsimp only
    rw [show ((w.spawn .startLoad).record (.done entry .ok)).desk = _ from w.desk_spawn rfl]
    exact .apart
  | close | stop => exact errand_report (fun _ => rfl) (.of_apart (Teardown.touches_start w true))
  | connect =>
    exact errand_report (fun _ => rfl)
      (.of_touches (Connect.touches_start t w false) (Connect.visit_start t false w))
  | disconnect => exact errand_report (fun _ => rfl) (.of_apart (Disconnect.touches_start w))
  | request caller =>
    exact errand_report (fun _ => rfl)
      (.of_touches (Connect.touches_request t w caller) (Connect.visit_request t caller w))
  | check => exact errand_report (fun _ => rfl) (.of_apart (Check.touches_start w))
  | refresh c => exact errand_report (fun _ => rfl) (Refresh.errand_start t c w)
  | lookUp c =>
    exact errand_report (f := fun _ => some (c, .lock)) (fun _ => rfl) (.enter c)

/-- What a task does at the desk in its turn. -/
theorem errand_resume (task : Task) (w : World) :
    Errand t (task.drops t w) w task.visit? (resume t task w).1.desk
      ((resume t task w).2 >>= visit?) := by
  cases task with
  | asked entry operation =>
    have live : (asked entry operation).drops t w = false := by
      cases operation <;> rfl
    rw [live]
    exact errand_begin t entry operation w
  | load entry p => exact errand_report (fun _ => rfl) (.of_apart (Load.touches_resume w p))
  | teardown entry p => exact errand_report (fun _ => rfl) (.of_apart (Teardown.touches_resume w p))
  | connect entry a => exact errand_report (fun _ => rfl) (Connect.errand_resume t a w)
  | disconnect entry p =>
    exact errand_report (fun _ => rfl) (.of_apart (Disconnect.touches_resume w p))
  | check entry p => exact errand_report (fun _ => rfl) (.of_apart (Check.touches_resume w p))
  | refresh entry c p => exact errand_report (fun _ => rfl) (Refresh.errand_resume t c p w rfl)
  | lookUp entry c =>
    exact errand_report (f := fun _ => some (c, .lock)) (fun _ => rfl) (Lookup.errand_resume t c w)
  | startLoad => exact errand_goOn (fun _ => rfl) (.of_apart (Load.touches_start w))
  | detachedLoad p => exact errand_goOn (fun _ => rfl) (.of_apart (Load.touches_resume w p))
  | setup p => exact errand_goOn (fun _ => rfl) (.of_apart (Setup.touches_resume t w p))
  | autostart =>
    exact errand_goOn (fun _ => rfl)
      (.of_touches (Connect.touches_start t w false) (Connect.visit_start t false w))
  | autoconnect a => exact errand_goOn (fun _ => rfl) (Connect.errand_resume t a w)
  | handler p => exact errand_goOn (fun _ => rfl) (.of_apart (Handler.touches_resume t w p))
  | guard g p =>
    have drops : (Task.guard g p).drops t w = Guard.drops t w p := by
      cases p <;> rfl
    rw [drops]
    exact errand_goOn (fun _ => rfl) (Guard.errand_resume t g p w)

end Task

end TunnelKeeper.Coordinator
