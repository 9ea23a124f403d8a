import TunnelKeeper.Proofs.Closing

/-!
Renewals of a certificate. A check that finds the backend ready and its certificate due has another
one issued, and then takes the backend down. By then the backend is the one that it found unless
somebody has taken that away meanwhile, and a handler whose backend has been closed leaves it at
that. A check that somebody has asked for does not: it takes down whatever it finds.
-/

namespace TunnelKeeper.Coordinator

open World Cooperative

/-! ### Certificates on their way -/

/-- A certificate that is being issued to renew that of a load cycle. -/
abbrev Renewal := CycleId × Call (Except CertificateError Issue)

def CheckPoint.renewal? : CheckPoint → Option Renewal
  | issue c _ _ call => some (c, call)
  | _ => none

/-- The renewal that a check waits for, whoever makes the check. -/
def Task.renewal? : Task → Option Renewal
  | check _ p => p.renewal?
  | handler (.check p) => p.renewal?
  | _ => none

lemma CheckPoint.eq_of_renewal {p : CheckPoint} {r : Renewal} (renews : p.renewal? = some r) :
    ∃ expire checked, p = .issue r.1 expire checked r.2 := by
  unfold renewal? at renews
  split at renews
  · cases renews
    exact ⟨_, _, rfl⟩
  · cases renews

namespace Task

variable {task : Task} {r : Renewal}

lemma eq_of_renewal (renews : task.renewal? = some r) : ∃ expire checked,
    (∃ entry, task = .check entry (.issue r.1 expire checked r.2)) ∨
      task = .handler (.check (.issue r.1 expire checked r.2)) := by
  unfold renewal? at renews
  split at renews
  · obtain ⟨expire, checked, rfl⟩ := CheckPoint.eq_of_renewal renews
    exact ⟨expire, checked, .inl ⟨_, rfl⟩⟩
  · obtain ⟨expire, checked, rfl⟩ := CheckPoint.eq_of_renewal renews
    exact ⟨expire, checked, .inr rfl⟩
  · cases renews

lemma stays_of_renewal (renews : task.renewal? = some r) : task.mayGiveUp = false := by
  obtain ⟨expire, checked, ⟨entry, rfl⟩ | rfl⟩ := eq_of_renewal renews <;> rfl

end Task

/-! ### How a renewal begins -/

variable {t : TaskId} {w : World} {r : Renewal}

namespace Check

lemma renewal_of_loading {goOn : LoadPoint → CheckPoint} {outcome : CertificateCheck}
    (other : ∀ p, (goOn p).renewal? = none) {turn : Turn LoadPoint Unit} {q : CheckPoint}
    (came : (loading goOn outcome turn).2 = .wait q) : q.renewal? = none := by
  obtain ⟨p, rfl⟩ := exists_of_loading came
  exact other p

lemma ready_of_start {q : CheckPoint} (came : (start w).2 = .wait q)
    (renews : q.renewal? = some r) :
    (∃ n, w.state = ⟨w.state.generation, .ready r.1 n⟩) ∧ (start w).1.state = w.state := by
  unfold start at came ⊢
  split at came
  · cases (renewal_of_loading (fun _ => rfl) came).symm.trans renews
  · next active ready =>
    have state := BackendState.active?_eq_some_iff.1 ready
    dsimp only at came ⊢
    split at came
    · cases came
    · cases came
    · cases came
      cases renews
      exact ⟨⟨active.tunnel, by rw [state]⟩, rfl⟩

lemma renewal_of_resume {p q : CheckPoint} (came : (resume p w).2 = .wait q) :
    q.renewal? = none := by
  cases p with
  | load | reload | settle => exact renewal_of_loading (fun _ => rfl) came
  | issue => rcases point_of_issue came with ⟨p, rfl⟩ | ⟨due, rfl⟩ <;> rfl
  | teardown => rcases point_of_tearingDown came with ⟨p, rfl⟩ | ⟨due, rfl⟩ <;> rfl

end Check

lemma Handler.exists_of_checking {turn : Turn CheckPoint CertificateCheck} {q : CheckPoint}
    (came : (checking turn).2 = .wait (.check q)) :
    turn.2 = .wait q ∧ (checking turn).1 = turn.1 := by
  obtain ⟨v, p | _ | _⟩ := turn
  · cases came
    exact ⟨rfl, rfl⟩
  · unfold checking night at came
    dsimp only at came
    split at came <;> cases came
  · cases came

namespace Task

/-- A task comes to a renewal when it begins a check and the backend is ready. -/
lemma ready_of_renewal {task next : Task} (came : (resume t task w).2 = some next)
    (renews : next.renewal? = some r) :
    (∃ n, w.state = ⟨w.state.generation, .ready r.1 n⟩) ∧
      (resume t task w).1.state = w.state := by
  cases task with
  | asked entry operation =>
    cases operation with
    | check =>
      obtain ⟨q, goesOn, rfl, same⟩ := exists_wait_of_report came
      have ready := Check.ready_of_start goesOn renews
      exact ⟨ready.1, (congrArg World.state same).trans ready.2⟩
    | start => cases came
    | load | connect | request | close | stop | disconnect | refresh | lookUp =>
      obtain ⟨q, rfl⟩ := exists_point_of_report came
      cases renews
  | check entry p =>
    obtain ⟨q, goesOn, rfl, -⟩ := exists_wait_of_report came
    cases (Check.renewal_of_resume goesOn).symm.trans renews
  | handler p =>
    obtain ⟨q, goesOn, rfl⟩ := exists_wait_of_goOn came
    rw [resume, goOn_fst]
    obtain ⟨q, rfl⟩ : ∃ q', q = .check q' := by
      cases q with
      | check q' => exact ⟨q', rfl⟩
      | start | sleep => cases renews
    cases p with
    | start =>
      unfold Handler.resume Handler.night at goesOn
      dsimp only at goesOn
      split at goesOn <;> cases goesOn
    | sleep due =>
      unfold Handler.resume at goesOn ⊢
      dsimp only at goesOn ⊢
      split at goesOn
      · cases goesOn
      · next live =>
        obtain ⟨goesOn, same⟩ := Handler.exists_of_checking goesOn
        rw [if_neg live, same]
        exact Check.ready_of_start goesOn renews
    | check p =>
      unfold Handler.resume at goesOn
      dsimp only at goesOn
      split at goesOn
      · cases goesOn
      · obtain ⟨goesOn, -⟩ := Handler.exists_of_checking goesOn
        cases (Check.renewal_of_resume goesOn).symm.trans renews
  | load | teardown | connect | disconnect | refresh | lookUp =>
    obtain ⟨q, rfl⟩ := exists_point_of_report came
    cases renews
  | startLoad | detachedLoad | setup | autostart | autoconnect | guard =>
    obtain ⟨q, rfl⟩ := exists_point_of_goOn came
    cases renews

end Task

/-! ### How it ends -/

namespace Check

variable {p : CheckPoint} (renews : p.renewal? = some r)
include renews

/-- Once the certificate has been issued, a backend that is ready is taken away, and its tunnel is
told to stop. -/
lemma takes_of_issued {c : CycleId} {n : TunnelId} {issue : Issue}
    (issued : r.2.answer = .ok issue) (ready : w.state.phase = .ready c n) :
    (resume p w).1.state = w.state.take.2 ∧
      ∃ stop, (resume p w).2 = .wait (.teardown ⟨n, stop⟩) := by
  obtain ⟨expire, checked, rfl⟩ := CheckPoint.eq_of_renewal renews
  have arrived : (w.issueArrived r.1 issue).state.phase = .ready c n := ready
  have taken : (Teardown.taken false (w.issueArrived r.1 issue)).state = w.state.take.2 :=
    congrArg Outline.state (Teardown.outline_taken false _)
  rw [resume, issued]
  dsimp only
  rw [Teardown.start_of_ready arrived]
  exact ⟨taken, _, rfl⟩

lemma over_of_failed {e : CertificateError} (failed : r.2.answer = .error e) :
    (resume p w).1.state = w.state ∧ ∀ q, (resume p w).2 ≠ .wait q := by
  obtain ⟨expire, checked, rfl⟩ := CheckPoint.eq_of_renewal renews
  rw [resume, failed]
  unfold Check.failed
  dsimp only
  split <;> exact ⟨rfl, by simp⟩

end Check

namespace Handler

lemma resume_of_cancelled (p : CheckPoint) (cancelled : w.isCancelled t = true) :
    resume t (.check p) w = (w, .done ()) := by
  simp [resume, cancelled]

lemma resume_of_live (p : CheckPoint) (live : w.isCancelled t = false) :
    resume t (.check p) w = checking (Check.resume p w) := by
  simp [resume, live]

end Handler

namespace Task

variable {task : Task} (renews : task.renewal? = some r)
include renews

lemma takes_of_issued {c : CycleId} {n : TunnelId} {issue : Issue}
    (issued : r.2.answer = .ok issue) (ready : w.state.phase = .ready c n)
    (live : w.isCancelled t = false) : (resume t task w).1.state = w.state.take.2 ∧
      ∃ stop, jobOf (resume t task w).2 = .teardown ⟨n, stop⟩ := by
  have checked (p : CheckPoint) (renews : p.renewal? = some r) :=
    Check.takes_of_issued renews issued ready
  obtain ⟨expire, at_time, ⟨entry, rfl⟩ | rfl⟩ := eq_of_renewal renews
  · obtain ⟨taken, stop, goesOn⟩ := checked (.issue r.1 expire at_time r.2) rfl
    rw [resume]
    generalize Check.resume _ w = turn at taken goesOn
    obtain ⟨v, progress⟩ := turn
    cases goesOn
    exact ⟨taken, stop, rfl⟩
  · obtain ⟨taken, stop, goesOn⟩ := checked (.issue r.1 expire at_time r.2) rfl
    rw [resume, Handler.resume_of_live _ live]
    generalize Check.resume _ w = turn at taken goesOn
    obtain ⟨v, progress⟩ := turn
    cases goesOn
    exact ⟨taken, stop, rfl⟩

lemma same_of_failed {e : CertificateError} (failed : r.2.answer = .error e) :
    (resume t task w).1.state = w.state := by
  have checked (p : CheckPoint) (renews : p.renewal? = some r) :
      (Check.resume p w).1.state = w.state :=
    (Check.over_of_failed renews failed).1
  obtain ⟨expire, at_time, ⟨entry, rfl⟩ | rfl⟩ := eq_of_renewal renews
  · have same := checked (.issue r.1 expire at_time r.2) rfl
    rw [resume]
    generalize Check.resume _ w = turn at same
    obtain ⟨v, _ | _ | _⟩ := turn <;> exact same
  · have same := checked (.issue r.1 expire at_time r.2) rfl
    rw [resume, goOn_fst]
    by_cases live : w.isCancelled t = true
    · rw [Handler.resume_of_cancelled _ live]
    · rw [Handler.resume_of_live _ (Bool.eq_false_iff.2 live)]
      generalize Check.resume _ w = turn at same
      obtain ⟨v, _ | _ | _⟩ := turn
      · exact same
      · exact (congrArg Outline.state (Handler.outline_night v).1).trans same
      · exact same

lemma over_of_cancelled (own : task.owner = .handler) (cancelled : w.isCancelled t = true) :
    resume t task w = (w, none) := by
  obtain ⟨expire, at_time, ⟨entry, rfl⟩ | rfl⟩ := eq_of_renewal renews
  · cases own
  · rw [resume, Handler.resume_of_cancelled _ cancelled]
    rfl

end Task

/-! ### What happens meanwhile -/

lemma Move.state_of_ready {m : Move} {w' : World} {g : Nat} {c : CycleId} {n : TunnelId}
    (move : m.outcome? w = some w') (ready : w.state = ⟨g, .ready c n⟩) :
    w'.state = w.state ∨ w.TakesAway w' := by
  have shift := Move.shift move
  unfold World.TakesAway BackendState.take
  generalize w'.state = s at shift ⊢
  rw [ready] at shift ⊢
  cases shift with
  | same => exact .inl rfl
  | take => exact .inr rfl
  | begin idle => exact idle.elim
  | fail now | registered _ now | stalled _ now | up _ _ now => cases now

/-- What is ready after a run is what was ready before it, if and only if nobody has taken it
away. -/
lemma World.state_eq_iff {v : World} {moves : List Move} {g : Nat} {c : CycleId} {n : TunnelId}
    (run : w.after? moves = some v) (ready : w.state = ⟨g, .ready c n⟩) :
    v.state = w.state ↔ w.Throughout (fun _ u u' => ¬ u.TakesAway u') moves := by
  induction moves generalizing w with
  | nil => exact iff_of_true (congrArg World.state (Option.some.inj run).symm) trivial
  | cons m moves ih =>
    obtain ⟨u, first, rest⟩ := Option.bind_eq_some_iff.1 run
    constructor
    · intro same u' first'
      cases first.symm.trans first'
      have kept : u.state = w.state := by
        refine (Move.state_of_ready first ready).resolve_right fun taken => ?_
        -- Generations only grow, so what was taken away would not be back after the run.
        have le := Reaches.generation_le ⟨moves, rest⟩
        rw [same, taken] at le
        exact Nat.not_succ_le_self _ le
      refine ⟨fun taken => ?_, (ih rest (kept.trans ready)).1 (same.trans kept.symm)⟩
      exact Nat.succ_ne_self _ (congrArg BackendState.generation (taken.symm.trans kept))
    · intro all
      obtain ⟨untaken, all⟩ := all u first
      have kept := (Move.state_of_ready first ready).resolve_right untaken
      exact ((ih rest (kept.trans ready)).2 all).trans kept

/-- While a task waits for its renewal, nobody moves it, and a handler that is closed has been
cancelled from then on. -/
lemma World.isCancelled_of_closed {v : World} {moves : List Move} {task : Task}
    (back : Background w.outline) (here : w.schedule.point? t = some task)
    (renews : task.renewal? = some r) (own : task.owner = .handler)
    (others : w.Throughout (fun m _ _ => m ≠ .turn t) moves)
    (closed : w.Sometime (fun m u _ => m.Closes u) moves) (run : w.after? moves = some v) :
    v.isCancelled t = true :=
  closed.brings (I := fun u => Background u.outline ∧ u.schedule.point? t = some task)
    (R := fun u => u.isCancelled t = true)
    (fun move other h => ⟨h.1.step (Move.step move),
      Move.point?_kept move h.2 other (Task.stays_of_renewal renews)⟩)
    (fun move closes _ h => (Outline.Quiet.of_closing move closes).cancelled h.1
      (own ▸ outline_owner h.2))
    (fun move _ => Move.isCancelled move) others run ⟨back, here⟩

/-- **A renewal reloads the backend that it renews**, unless somebody has taken that away meanwhile.
It begins for a backend that is ready. When the certificate has been issued, the backend is still
that one if and only if nobody took it away, and then it is the one that is taken, and its own tunnel
is told to stop. Nothing is taken if the certificate could not be issued, or if the handler renews it
and the backend has been closed; then the handler is over. -/
theorem renewal_reloads_own_backend {s : Setting} {w w' v v' : World} {task : Task} {c : CycleId}
    {call : Call (Except CertificateError Issue)} {moves : List Move}
    (before : Reaches s.world w) (begins : (Move.turn t).outcome? w = some w')
    (here : w'.schedule.point? t = some task) (renews : task.renewal? = some (c, call))
    (run : w'.after? moves = some v) (others : .turn t ∉ moves)
    (turn : (Move.turn t).outcome? v = some v') :
    ∃ n, w.state = ⟨w.state.generation, .ready c n⟩ ∧
      (v.state = w.state ↔ w'.Throughout (fun _ u u' => ¬ u.TakesAway u') moves) ∧
      (∀ issue, call.answer = .ok issue → v.state = w.state → v.isCancelled t = false →
        v.TakesAway v' ∧ ∃ stop, v'.outline.job t = .teardown ⟨n, stop⟩) ∧
      (∀ e, call.answer = .error e → v'.state = v.state) ∧
      (task.owner = .handler → w'.Sometime (fun m u _ => m.Closes u) moves →
        v'.state = v.state ∧ v'.schedule.point? t = none) := by
  obtain ⟨first, there, -, rfl⟩ := exists_of_turn begins
  have came := (point?_advance t first w).symm.trans here
  obtain ⟨⟨n, ready⟩, same⟩ := Task.ready_of_renewal came renews
  have same : (advance t first w).state = w.state := by
    rw [advance_eq]
    exact same
  have back : Background (advance t first w).outline :=
    before.background.step (Move.step begins)
  have others : (advance t first w).Throughout (fun m _ _ => m ≠ .turn t) moves :=
    throughout_of_mem fun m there same => others (same ▸ there)
  have waits : v.schedule.point? t = some task :=
    others.keeps (I := fun u => u.schedule.point? t = some task)
      (fun move other h => Move.point?_kept move h other (Task.stays_of_renewal renews)) run here
  obtain ⟨task', waits', -, rfl⟩ := exists_of_turn turn
  cases waits.symm.trans waits'
  have after : (advance t task v).state = (Task.resume t task v).1.state := by
    rw [advance_eq]
  refine ⟨n, ready, ?_, ?_, ?_, ?_⟩
  · rw [← same]
    exact state_eq_iff run (same.trans ready)
  · intro issue issued kept live
    have ready : v.state.phase = .ready c n := by rw [kept, ready]
    obtain ⟨taken, stop, job⟩ := Task.takes_of_issued renews issued ready live
    refine ⟨after.trans taken, stop, ?_⟩
    show jobOf _ = _
    rw [point?_advance, job]
  · intro e failed
    exact after.trans (Task.same_of_failed renews failed)
  · intro own closed
    have cancelled := isCancelled_of_closed back here renews own others closed run
    have ended := Task.over_of_cancelled renews own cancelled
    rw [after, point?_advance, ended]
    exact ⟨rfl, rfl⟩

/-- While the handler renews the certificate, somebody connects the backend, which is then taken
away. -/
theorem first_backend_is_renewed : ∃ w w' v v' : World,
    Setting.shortLived.world.after? (firstLoad ++ [.time 86401000]) = some w ∧
      (Move.turn 1).outcome? w = some w' ∧ w'.after? [.ask .connect, .turn 3] = some v ∧
      (Move.turn 1).outcome? v = some v' ∧ w.state = ⟨1, .ready 0 0⟩ ∧ v.TakesAway v' ∧
      ∃ stop, v'.outline.job 1 = .teardown ⟨0, stop⟩ := by
  have seen : (Setting.shortLived.world.after? (firstLoad ++ [.time 86401000])).bind (fun w =>
      ((Move.turn 1).outcome? w).bind fun w' =>
        (w'.after? [.ask .connect, .turn 3]).bind fun v => ((Move.turn 1).outcome? v).map fun _ =>
          (w.state, v.state, v.isCancelled 1, (w'.schedule.point? 1 >>= Task.renewal?).map fun r =>
            (r.1, r.2.answer.toOption.isSome))) =
      some (⟨1, .ready 0 0⟩, ⟨1, .ready 0 0⟩, false, some (0, true)) := rfl
  obtain ⟨w, before, seen⟩ := Option.bind_eq_some_iff.1 seen
  obtain ⟨w', begins, seen⟩ := Option.bind_eq_some_iff.1 seen
  obtain ⟨v, run, seen⟩ := Option.bind_eq_some_iff.1 seen
  obtain ⟨v', turn, seen⟩ := Option.map_eq_some_iff.1 seen
  simp only [Prod.mk.injEq] at seen
  obtain ⟨ready, still, live, seen⟩ := seen
  obtain ⟨⟨c, call⟩, seen, issued⟩ := Option.map_eq_some_iff.1 seen
  obtain ⟨task, here, renews⟩ := Option.bind_eq_some_iff.1 seen
  obtain ⟨issue, issued⟩ : ∃ issue, call.answer = .ok issue := by
    cases answer : call.answer with
    | ok issue => exact ⟨issue, rfl⟩
    | error e => simp [answer, Except.toOption] at issued
  obtain ⟨n, found, -, takes, -⟩ :=
    renewal_reloads_own_backend ⟨_, before⟩ begins here renews run (by simp) turn
  obtain ⟨taken, stop, job⟩ := takes issue issued (still.trans ready.symm) live
  cases congrArg BackendState.phase (ready.symm.trans found)
  exact ⟨w, w', v, v', before, begins, run, turn, ready, taken, stop, job⟩

/-- The second certificate takes ten seconds to be issued. -/
def Setting.slowRenewal : Setting where
  scripts := { issue :=
    { entries := [{ answer := .ok { validMillis := 864000000 } },
        { delay := 10000, answer := .ok {} }]
      usual := .ok {} } }

/-- The backend is closed, and another one comes up. -/
def secondBackend : List Move :=
  [.ask .close, .turn 4, .turn 4, .ask .load, .turn 5, .turn 6, .turn 5, .turn 5, .turn 7, .turn 7,
    .build, .turn 7, .turn 7, .time 10000]

/-- A check that was made for the first backend takes the second one away. -/
theorem second_backend_is_taken : ∃ w w' v v' : World,
    Setting.slowRenewal.world.after? (firstLoad ++ [.ask .check]) = some w ∧
      (Move.turn 3).outcome? w = some w' ∧ w'.after? secondBackend = some v ∧
      (Move.turn 3).outcome? v = some v' ∧ w.state = ⟨1, .ready 0 0⟩ ∧
      v.state = ⟨3, .ready 1 1⟩ ∧ v.TakesAway v' ∧
      ∃ stop, v'.schedule.point? 3 = some (.check 1 (.teardown ⟨1, stop⟩)) := by
  have seen : (Setting.slowRenewal.world.after? (firstLoad ++ [.ask .check])).bind (fun w =>
      ((Move.turn 3).outcome? w).bind fun w' => (w'.after? secondBackend).bind fun v =>
        ((Move.turn 3).outcome? v).map fun v' => (w.state, v.state, v'.state,
          v'.schedule.point? 3)) =
      some (⟨1, .ready 0 0⟩, ⟨3, .ready 1 1⟩, ⟨4, .absent⟩,
        some (.check 1 (.teardown ⟨1, ⟨10000, ()⟩⟩))) := rfl
  obtain ⟨w, before, seen⟩ := Option.bind_eq_some_iff.1 seen
  obtain ⟨w', begins, seen⟩ := Option.bind_eq_some_iff.1 seen
  obtain ⟨v, run, seen⟩ := Option.bind_eq_some_iff.1 seen
  obtain ⟨v', turn, seen⟩ := Option.map_eq_some_iff.1 seen
  simp only [Prod.mk.injEq] at seen
  obtain ⟨first, second, taken, there⟩ := seen
  refine ⟨w, w', v, v', before, begins, run, turn, first, second, ?_, _, there⟩
  rw [TakesAway, taken, second]
  rfl

end TunnelKeeper.Coordinator
