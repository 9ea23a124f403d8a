import TunnelKeeper.Proofs.Errands

/-!
Tokens over time. A caller that has asked for a token holds the lock until the answer is there or it
is dropped, so requests for a load cycle come one at a time, and nobody else changes the token that
is kept meanwhile.
-/

namespace TunnelKeeper.Coordinator

open World Cooperative

/-! ### Moves at the desk -/

/-- The caller whose move it is has been dropped: it gave up, or it is a guard that has been
cancelled in the middle of an attempt. -/
def Move.drops (m : Move) (w : World) : Bool :=
  match m with
  | turn t => (w.schedule.point? t).any (Task.drops t w)
  | giveUp _ => true
  | _ => false

namespace World

variable {w w' : World} {t : TaskId} {c : CycleId}

lemma desk_advance (t : TaskId) (task : Task) (w : World) : (advance t task w).desk =
    (Task.resume t task w).1.desk.pass t ((Task.resume t task w).2 >>= Task.visit?) := by
  unfold advance
  rw [show Cooperative.resume t task w = Task.resume t task w from rfl]
  rcases Task.resume t task w with ⟨v, _ | next⟩
  · exact v.desk_removeTask t
  · exact v.desk_moveTask t next

lemma desk_giveUp (move : (Move.giveUp t).outcome? w = some w') : ∃ c p,
    w.visit t = some (c, p) ∧ w'.desk = (w.desk.leave c t).pass t none := by
  have left (c : CycleId) :
      ({ w with schedule := w.schedule.removeTask t }.leaveTokenLock c t : World).desk =
        (w.desk.leave c t).pass t none := by
    rw [desk_leaveTokenLock, desk_removeTask]
    rfl
  unfold Move.outcome? giveUp? at move
  dsimp only at move
  split at move
  · next entry c p here => exact ⟨c, p, visit_of_point? here, Option.some.inj move ▸ left c⟩
  · next entry c here => exact ⟨c, .lock, visit_of_point? here, Option.some.inj move ▸ left c⟩
  · cases move

end World

/-- A move leaves the desk as it is, unless it is that of a task with an errand there. -/
theorem Move.errand {m : Move} {w w' : World} (move : m.outcome? w = some w') :
    (w'.desk = w.desk ∧ ∀ t, m ≠ .turn t ∧ m ≠ .giveUp t) ∨
      ∃ t d v, (m = .turn t ∨ m = .giveUp t) ∧ Errand t (m.drops w) w (w.visit t) d v ∧
        w'.desk = d.pass t v := by
  have other {m : Move} (same : w'.desk = w.desk) (apart : ∀ t, m ≠ .turn t ∧ m ≠ .giveUp t) :
      (w'.desk = w.desk ∧ ∀ t, m ≠ .turn t ∧ m ≠ .giveUp t) ∨
        ∃ t d v, (m = .turn t ∨ m = .giveUp t) ∧ Errand t (m.drops w) w (w.visit t) d v ∧
          w'.desk = d.pass t v := .inl ⟨same, apart⟩
  cases m with
  | turn t =>
    obtain ⟨task, here, -, rfl⟩ := exists_of_turn move
    have errand := Task.errand_resume (t := t) task w
    have drops : (Move.turn t).drops w = task.drops t w := by
      rw [Move.drops, here]
      rfl
    rw [← drops, ← visit_of_point? here] at errand
    exact .inr ⟨t, _, _, .inl rfl, errand, desk_advance t task w⟩
  | giveUp t =>
    obtain ⟨c, p, there, after⟩ := desk_giveUp move
    refine .inr ⟨t, _, none, .inr rfl, ?_, after⟩
    rw [there]
    exact .leave (.inr (.inl rfl))
  | ask operation =>
    obtain rfl := Option.some.inj move
    exact other (w.desk_spawn (by cases operation <;> rfl)) (by simp)
  | drop n =>
    obtain rfl := Option.some.inj move
    exact other ((w.touches_setConnected (f := .plain) _ false).desk nofun) (by simp)
  | build =>
    rw [outcome?, finishBuild?] at move
    split at move
    · cases move
    · next u rest _ =>
      obtain rfl := Option.some.inj move
      exact other (desk_wakeOption { w with builds := rest } (some u)) (by simp)
  | time now =>
    obtain ⟨-, move⟩ := Option.ite_none_right_eq_some.1 move
    obtain rfl := Option.some.inj move
    exact other rfl (by simp)
  | line | answers | clock | host =>
    obtain rfl := Option.some.inj move
    exact other rfl (by simp)

/-! ### The lock of a token -/

/-- Who comes to a lock finds whoever holds it there, and stays behind them. -/
lemma World.holder_of_entered {w : World} {t u : TaskId} {c c' : CycleId}
    (held : (w.tokenLock c').holder = some u) :
    ((w.enterTokenLock c t).tokenLock c').holder = some u := by
  have lock : (w.enterTokenLock c t).tokenLock = Function.update w.tokenLock c
      (((w.cycle? c).map fun cycle => cycle.tokenLock.enter t).getD {}) :=
    congrArg Desk.lock (w.desk_enterTokenLock c t)
  rw [lock]
  by_cases same : c' = c
  · subst same
    rw [tokenLock] at held
    rw [Function.update_self]
    cases there : w.cycle? c' with
    | none =>
      rw [there] at held
      cases held
    | some cycle =>
      rw [there] at held
      exact Lock.holder_enter held t
  · rwa [Function.update_of_ne same]

lemma Desk.holder_of_left {d : Desk} {t u : TaskId} {c c' : CycleId}
    (held : (d.lock c').holder = some u) (other : u ≠ t) :
    ((d.leave c t).lock c').holder = some u := by
  show (Function.update d.lock c ((d.lock c).leave t).1 c').holder = some u
  by_cases same : c' = c
  · subst same
    rw [Function.update_self]
    exact Lock.holder_leave_of_ne held other
  · rwa [Function.update_of_ne same]

/-- A caller that waits for the lock goes on once it holds it, unless it has been dropped. -/
lemma World.holder_of_turn {w w' : World} {t : TaskId} {c : CycleId}
    (turn : (Move.turn t).outcome? w = some w') (waits : w.visit t = some (c, .lock))
    (live : (Move.turn t).drops w = false) : (w.tokenLock c).holder = some t := by
  obtain ⟨task, here, ready, -⟩ := exists_of_turn turn
  rw [visit_of_point? here] at waits
  have live : task.drops t w = false := by
    rwa [Move.drops, here] at live
  have arrived (wait : task.wait = .tokenLock c)
      (deaf : (task.heedsCancel && w.isCancelled t) = false) :
      (w.tokenLock c).holder = some t := by
    rw [World.ready, deaf, Bool.or_false, wait] at ready
    exact of_decide_eq_true ready
  have attempted {a : Attempt} (mine : a.visit? = some (c, .lock)) : a.wait = .tokenLock c := by
    obtain ⟨active, guarded, step⟩ := a
    cases step with
    | refresh p =>
      cases mine
      rfl
    | _ => cases mine
  cases task with
  | refresh | lookUp =>
    cases waits
    exact arrived rfl rfl
  | connect _ a | autoconnect a => exact arrived (attempted waits) rfl
  | guard g p =>
    cases p with
    | attempt a =>
      refine arrived (attempted waits) ?_
      have heeds : (Task.guard g (.attempt a)).heedsCancel = true → a.guarded = true :=
        fun heeds => (Bool.and_eq_true_iff.1 heeds).1
      by_contra cancelled
      obtain ⟨heeds', cancelled⟩ := Bool.and_eq_true_iff.1 (Bool.of_not_eq_false cancelled)
      have drops : (a.guarded && w.isCancelled t) = true := by rw [heeds heeds', cancelled]; rfl
      cases live.symm.trans drops
    | _ => cases waits
  | _ => cases waits

/-- Whoever has asked for a token holds its lock. -/
def Desk.Held (d : Desk) : Prop :=
  ∀ r : Request, d.Awaits r → (d.lock r.cycle).holder = some r.caller

namespace Desk.Held

variable {d : Desk}

lemma alone (h : d.Held) {r r' : Request} (mine : d.Awaits r) (theirs : d.Awaits r')
    (same : r.cycle = r'.cycle) : r = r' := by
  have caller : r.caller = r'.caller :=
    Option.some.inj ((h r mine).symm.trans (same ▸ h r' theirs))
  obtain ⟨t, c, key, call, deadline⟩ := r
  obtain ⟨t', c', key', call', deadline'⟩ := r'
  obtain rfl : t = t' := caller
  cases Option.some.inj (mine.symm.trans theirs)
  rfl

lemma move {m : Move} {w w' : World} (h : w.desk.Held) (move : m.outcome? w = some w') :
    w'.desk.Held := by
  rcases Move.errand move with ⟨same, -⟩ | ⟨t, d, v, mover, errand, after⟩
  · rw [same]
    exact h
  · rw [after]
    rintro ⟨u, c, key, call, deadline⟩ asked
    change Function.update d.visit t v u = some (c, .request key call deadline) at asked
    change (d.lock c).holder = some u
    by_cases mine : u = t
    · subst mine
      rw [Function.update_self] at asked
      subst asked
      generalize there : w.visit u = v at errand
      generalize dropped : m.drops w = b at errand
      cases errand with
      | ask call deadline live =>
        rcases mover with rfl | rfl
        · exact holder_of_turn move there (dropped.trans live)
        · cases (dropped.trans live : true = false)
    · rw [Function.update_of_ne mine, errand.visit_eq] at asked
      have held : (w.tokenLock c).holder = some u := h ⟨u, c, key, call, deadline⟩ asked
      generalize w.visit t = v' at errand
      cases errand with
      | apart | ask => exact held
      | enter => exact holder_of_entered held
      | leave => exact holder_of_left (d := w.desk) held mine
      | keep new =>
        rw [Refresh.desk_keep]
        exact holder_of_left (d := { w.desk with kept := _ }) held mine

end Desk.Held

theorem Reaches.held {s : Setting} {w : World} (run : Reaches s.world w) : w.desk.Held :=
  run.keeps (P := fun v => v.desk.Held) (fun move h => h.move move) nofun

/-! ### What comes of a request -/

/-- The token is made of the key that has been sent and of what the answer to it says. -/
structure World.Grants (w : World) (key : KeyId) (grant : Grant) (new : Token) : Prop where
  keys : new.keys = key
  authToken : new.authToken = (w.granted key grant).token
  validUntil : (w.granted key grant).validUntil = .ok new.validUntil
  throttling : new.throttling = (w.granted key grant).throttling

namespace Refresh

variable {t : TaskId} {c : CycleId} {key : KeyId} {call : Call (Except BackendError Grant)}
  {deadline : Nat} {w : World} {new : Token}

lemma exists_grant (granted : (resume t c (.request key call deadline) w).2 = .done (.ok new)) :
    ∃ grant, call.answer = .ok grant ∧ w.Grants key grant new := by
  have had : w.tokenOf key call.answer = .ok new := by
    rw [resume] at granted
    split at granted
    · split at granted
      · next had =>
        cases granted
        exact had
      · cases granted
    · cases granted
  cases answer : call.answer with
  | error e =>
    rw [answer] at had
    cases had
  | ok grant =>
    refine ⟨grant, rfl, ?_⟩
    rw [answer, tokenOf] at had
    split at had
    · next validUntil ends =>
      cases had
      exact ⟨rfl, rfl, ends, rfl⟩
    · cases had

lemma kept?_of_valid {old : Token} (there : w.kept c = some old) (valid : old.ValidAt w.clock) :
    kept? c w = some old := by
  rw [show kept? c w = (w.kept c).filter _ from rfl, there]
  exact if_pos (decide_eq_true valid)

lemma not_valid_of_unusable {old : Token} (unusable : kept? c w = none)
    (there : w.kept c = some old) : ¬ old.ValidAt w.clock := fun valid => by
  cases unusable.symm.trans (kept?_of_valid there valid)

lemma resume_of_valid {old : Token} (there : w.kept c = some old) (valid : old.ValidAt w.clock) :
    (resume t c .lock w).2 = .done (.ok old) := by
  rw [resume, kept?_of_valid there valid]
  rfl

end Refresh

namespace Move

variable {m : Move} {w w' : World} {t : TaskId} {c : CycleId}

lemma visit_kept (move : m.outcome? w = some w') (other : m ≠ .turn t ∧ m ≠ .giveUp t) :
    w'.visit t = w.visit t := by
  rcases errand move with ⟨same, -⟩ | ⟨u, d, v, mover, errand, after⟩
  · exact congrFun (congrArg Desk.visit same) t
  · have elsewhere : t ≠ u := by
      rintro rfl
      exact mover.elim other.1 other.2
    have visit : w'.visit = Function.update d.visit u v := congrArg Desk.visit after
    rw [visit, Function.update_of_ne elsewhere, errand.visit_eq]

lemma sent_cases (move : m.outcome? w = some w') : w'.sent = w.sent ∨
    ∃ r : Request, m = .turn r.caller ∧ w.visit r.caller = some (r.cycle, .lock) ∧
      Refresh.kept? r.cycle w = none ∧ w'.sent = r.key :: w.sent ∧ w'.desk.Awaits r := by
  rcases errand move with ⟨same, -⟩ | ⟨t, d, v, mover, errand, after⟩
  · exact .inl (congrArg Desk.sent same)
  · have sent : w'.sent = d.sent := congrArg Desk.sent after
    rw [sent]
    refine errand.sent_cases.imp_right ?_
    rintro ⟨r, rfl, waits, live, unusable, asked, rfl⟩
    have awaits : w'.desk.Awaits r := by
      rw [after]
      exact Function.update_self ..
    rcases mover with rfl | rfl
    · exact ⟨r, rfl, waits, unusable, asked, awaits⟩
    · cases (live : true = false)

/-- In this move, the request is granted. -/
structure Grants (r : Request) (new : Token) (m : Move) (w : World) : Prop where
  turn : m = .turn r.caller
  live : m.drops w = false
  answer : r.answer w = .done (.ok new)

/-- In this move, the request fails, or its caller is dropped. -/
structure Fails (r : Request) (m : Move) (w : World) : Prop where
  mover : m = .turn r.caller ∨ m = .giveUp r.caller
  why : m.drops w = true ∨ ∃ e, r.answer w = .done (.error e)

/-- Who has asked for a token has asked for one that can be kept. -/
lemma kept_of_granted {r : Request} {d : Desk} {v : Option Visit} {new : Token}
    (held : w.desk.Held) (awaits : w.desk.Awaits r) (after : w'.desk = d.pass r.caller v)
    (keeps : d.kept = Function.update w.kept r.cycle ((w.cycle? r.cycle).map fun _ => new)) :
    w'.kept r.cycle = some new := by
  have there : w.cycle? r.cycle ≠ none := fun absent => by
    have held := held r awaits
    rw [show w.desk.lock r.cycle = w.tokenLock r.cycle from rfl, tokenLock, absent] at held
    cases held
  obtain ⟨cycle, there⟩ := Option.ne_none_iff_exists'.1 there
  have kept : w'.kept = d.kept := congrArg Desk.kept after
  rw [kept, keeps, Function.update_self, there]
  rfl

/-- The token that is kept changes when a request for it is granted, and not otherwise. -/
lemma kept_cases (held : w.desk.Held) (move : m.outcome? w = some w') (c : CycleId) :
    w'.kept c = w.kept c ∨ ∃ (r : Request) (new : Token), r.cycle = c ∧ w.desk.Awaits r ∧
      m.Grants r new w ∧ w'.kept c = some new := by
  rcases errand move with ⟨same, -⟩ | ⟨t, d, v, mover, errand, after⟩
  · exact .inl (congrFun (congrArg Desk.kept same) c)
  · have kept : w'.kept = d.kept := congrArg Desk.kept after
    rcases errand.kept_cases with same | ⟨r, new, rfl, awaits, live, granted, keeps⟩
    · exact .inl (by rw [kept, same])
    · by_cases mine : r.cycle = c
      · subst mine
        rcases mover with turn | rfl
        · exact .inr ⟨r, new, rfl, awaits, ⟨turn, live, granted⟩,
            kept_of_granted held awaits after keeps⟩
        · cases (live : true = false)
      · left
        rw [kept, keeps, Function.update_of_ne (Ne.symm mine)]

lemma of_request {r : Request} (held : w.desk.Held) (move : m.outcome? w = some w')
    (awaits : w.desk.Awaits r) (mover : m = .turn r.caller ∨ m = .giveUp r.caller) :
    (m.Fails r w ∧ w'.kept r.cycle = w.kept r.cycle) ∨
      ∃ new, m.Grants r new w ∧ w'.kept r.cycle = some new := by
  rcases errand move with ⟨-, other⟩ | ⟨t, d, v, mover', errand, after⟩
  · exact absurd mover (not_or.2 (other r.caller))
  · obtain rfl : t = r.caller := by
      rcases mover with rfl | rfl <;> rcases mover' with same | same <;> cases same <;> rfl
    have kept : w'.kept = d.kept := congrArg Desk.kept after
    rw [show w.visit r.caller = some r.visit from awaits] at errand
    rcases errand.of_request with ⟨same, why⟩ | ⟨new, live, granted, keeps⟩
    · exact .inl ⟨⟨mover, why⟩, by rw [kept, same]⟩
    · rcases mover with turn | rfl
      · exact .inr ⟨new, ⟨turn, live, granted⟩, kept_of_granted held awaits after keeps⟩
      · cases (live : true = false)

end Move

/-! ### From the request to its end -/

/-- A request is under way, and the token is kept that was kept when it was sent. -/
structure World.Pending (r : Request) (old : Option Token) (w : World) : Prop where
  held : w.desk.Held
  awaits : w.desk.Awaits r
  kept : w.kept r.cycle = old

/-- Nobody else makes a difference to a request. -/
lemma World.Pending.move {r : Request} {old : Option Token} {m : Move} {w w' : World}
    (h : w.Pending r old) (move : m.outcome? w = some w')
    (other : m ≠ .turn r.caller ∧ m ≠ .giveUp r.caller) : w'.Pending r old where
  held := h.held.move move
  awaits := (Move.visit_kept move other).trans h.awaits
  kept := by
    rcases Move.kept_cases h.held move r.cycle with same | ⟨r', new, cycle, awaits, grants, -⟩
    · exact same.trans h.kept
    · cases h.held.alone awaits h.awaits cycle
      exact absurd grants.turn other.1

lemma World.Pending.of_turn {r : Request} {w w' : World} (held : w.desk.Held)
    (turn : (Move.turn r.caller).outcome? w = some w') (awaits : w'.desk.Awaits r) :
    w'.sent = r.key :: w.sent ∧ w'.Pending r (w.kept r.cycle) := by
  have next := held.move turn
  rcases Move.errand turn with ⟨-, other⟩ | ⟨t, d, v, mover, errand, after⟩
  · exact absurd rfl (other r.caller).1
  · obtain rfl : t = r.caller := by
      rcases mover with same | same <;> cases same
      rfl
    obtain rfl : v = some r.visit := by
      have visit : w'.visit = Function.update d.visit r.caller v := congrArg Desk.visit after
      exact ((congrFun visit r.caller).trans (Function.update_self ..)).symm.trans awaits
    have kept : w'.kept = d.kept := congrArg Desk.kept after
    have sent : w'.sent = d.sent := congrArg Desk.sent after
    generalize there : w.visit r.caller = v' at errand
    generalize asked : some r.visit = v at errand
    obtain ⟨u, c, key, call, deadline⟩ := r
    cases errand with
    | enter => cases asked
    | ask =>
      cases asked
      exact ⟨sent, next, awaits, congrFun kept c⟩
    | _ => cases asked

/-! ### What callers are told -/

lemma World.reports_of_refresh {w w' : World} {t : TaskId} {entry : Nat} {c : CycleId}
    {p : RefreshPoint} {answer : Refresh.Answer}
    (here : w.schedule.point? t = some (.refresh entry c p))
    (ended : (Refresh.resume t c p w).2 = .done answer)
    (turn : (Move.turn t).outcome? w = some w') :
    w'.trace.head?.map Prod.snd = some (.done entry (.token answer)) := by
  obtain ⟨task, here', -, rfl⟩ := exists_of_turn turn
  cases here.symm.trans here'
  rw [advance_eq, Task.resume]
  rcases resumed : Refresh.resume t c p w with ⟨v, progress⟩
  rw [resumed] at ended
  obtain rfl : progress = .done answer := ended
  rfl

lemma World.reports_of_lookUp {w w' : World} {t : TaskId} {entry : Nat} {c : CycleId}
    (here : w.schedule.point? t = some (.lookUp entry c))
    (turn : (Move.turn t).outcome? w = some w') :
    w'.trace.head?.map Prod.snd = some (.done entry (.kept (w.kept c))) := by
  obtain ⟨task, here', -, rfl⟩ := exists_of_turn turn
  cases here.symm.trans here'
  rw [advance_eq]
  rfl

/-- **Tokens are asked for one at a time.** For a load cycle, at most one request is under way. It
is sent only if no valid token is kept; a valid one is all that a caller gets. Until its caller goes
on or gives up, the request is under way, and what is kept is what was kept before. Then it is
granted, and the token of that key and that answer is kept; or it fails or its caller is dropped,
and nothing has changed. Nothing else ever changes what is kept. -/
theorem tokens_one_at_a_time {s : Setting} {moves : List Move} {w : World}
    (run : s.world.after? moves = some w) :
    (∀ r r' : Request, w.desk.Awaits r → w.desk.Awaits r' → r.cycle = r'.cycle → r = r') ∧
    (∀ m w', Move.outcome? m w = some w' → w'.sent = w.sent ∨ ∃ r : Request,
      m = .turn r.caller ∧ w.visit r.caller = some (r.cycle, .lock) ∧
      (∀ old, w.kept r.cycle = some old → ¬ old.ValidAt w.clock) ∧
      w'.sent = r.key :: w.sent ∧ w'.desk.Awaits r) ∧
    (∀ t c old w', w.visit t = some (c, .lock) → w.kept c = some old → old.ValidAt w.clock →
      (Move.turn t).outcome? w = some w' → w'.sent = w.sent ∧ w'.kept c = some old ∧
        (Refresh.resume t c .lock w).2 = .done (.ok old)) ∧
    (∀ (r : Request) w', (Move.turn r.caller).outcome? w = some w' → w'.desk.Awaits r →
      w'.sent = r.key :: w.sent ∧ ∀ more v, w'.after? more = some v →
        w'.Throughout (fun m _ _ => m ≠ .turn r.caller ∧ m ≠ .giveUp r.caller) more →
        v.desk.Awaits r ∧ v.kept r.cycle = w.kept r.cycle ∧
        ∀ m v', m = .turn r.caller ∨ m = .giveUp r.caller → Move.outcome? m v = some v' →
          (m.Fails r v ∧ v'.kept r.cycle = w.kept r.cycle) ∨
            ∃ grant new, m.Grants r new v ∧ r.call.answer = .ok grant ∧ v.Grants r.key grant new ∧
              v'.kept r.cycle = some new) ∧
    (∀ m w' c, Move.outcome? m w = some w' → w'.kept c = w.kept c ∨ ∃ (r : Request) (new : Token),
      r.cycle = c ∧ w.desk.Awaits r ∧ m.Grants r new w ∧ w'.kept c = some new) ∧
    (∀ t entry c p answer w', w.schedule.point? t = some (.refresh entry c p) →
      (Refresh.resume t c p w).2 = .done answer → (Move.turn t).outcome? w = some w' →
        w'.trace.head?.map Prod.snd = some (.done entry (.token answer))) ∧
    ∀ t entry c w', w.schedule.point? t = some (.lookUp entry c) →
      (Move.turn t).outcome? w = some w' →
        w'.trace.head?.map Prod.snd = some (.done entry (.kept (w.kept c))) := by
  have held : w.desk.Held := Reaches.held ⟨moves, run⟩
  refine ⟨fun r r' => held.alone, fun m w' move => ?_, ?_, ?_, fun m w' c move => ?_, ?_, ?_⟩
  · refine (Move.sent_cases move).imp_right ?_
    rintro ⟨r, turn, waits, unusable, sent, awaits⟩
    exact ⟨r, turn, waits, fun old => Refresh.not_valid_of_unusable unusable, sent, awaits⟩
  · intro t c old w' waits there valid turn
    have usable := Refresh.kept?_of_valid there valid
    refine ⟨?_, ?_, Refresh.resume_of_valid there valid⟩
    · rcases Move.sent_cases turn with same | ⟨r, mine, waits', unusable, -⟩
      · exact same
      · cases mine
        cases waits.symm.trans waits'
        cases unusable.symm.trans usable
    · rcases Move.kept_cases held turn c with same | ⟨r, new, -, awaits, grants, -⟩
      · exact same.trans there
      · cases grants.turn
        cases waits.symm.trans awaits
  · intro r w' turn awaits
    obtain ⟨sent, pending⟩ := World.Pending.of_turn held turn awaits
    refine ⟨sent, fun more v run others => ?_⟩
    have pending : v.Pending r (w.kept r.cycle) :=
      others.keeps (fun move other h => h.move move other) run pending
    refine ⟨pending.awaits, pending.kept, fun m v' mover move => ?_⟩
    rw [← pending.kept]
    refine (Move.of_request pending.held move pending.awaits mover).imp_right ?_
    rintro ⟨new, granted, keeps⟩
    obtain ⟨grant, answer, grants⟩ := Refresh.exists_grant granted.answer
    exact ⟨grant, new, granted, answer, grants, keeps⟩
  · exact Move.kept_cases held move c
  · intro t entry c p answer w' here ended turn
    exact reports_of_refresh here ended turn
  · intro t entry c w' here turn
    exact reports_of_lookUp here turn

/-- While the first backend's token is on its way, somebody else asks for it, and waits. -/
theorem second_caller_waits : ∃ w w' v v' : World,
    ({} : Setting).world.after? (firstBackend.take 14) = some w ∧
      (Move.turn 3).outcome? w = some w' ∧ w'.after? [.ask (.refresh 0), .turn 4] = some v ∧
      (Move.turn 3).outcome? v = some v' ∧ w'.sent = [0] ∧ v.kept 0 = none ∧
      ∃ new, v'.kept 0 = some new ∧ new.keys = 0 := by
  have seen : (({} : Setting).world.after? (firstBackend.take 14)).bind (fun w =>
      ((Move.turn 3).outcome? w).bind fun w' =>
        (w'.after? [.ask (.refresh 0), .turn 4]).bind fun v =>
          ((Move.turn 3).outcome? v).map fun v' => (w.visit 3, w.sent, w.kept 0, w'.sent,
            (v'.kept 0).isSome)) = some (some (0, .lock), [], none, [0], true) := rfl
  obtain ⟨w, run, seen⟩ := Option.bind_eq_some_iff.1 seen
  obtain ⟨w', turn, seen⟩ := Option.bind_eq_some_iff.1 seen
  obtain ⟨v, more, seen⟩ := Option.bind_eq_some_iff.1 seen
  obtain ⟨v', answered, seen⟩ := Option.map_eq_some_iff.1 seen
  simp only [Prod.mk.injEq] at seen
  obtain ⟨waits, before, unkept, sent, kept⟩ := seen
  obtain ⟨-, requests, -, comes, -⟩ := tokens_one_at_a_time run
  rcases requests _ w' turn with
    same | ⟨⟨t, c, key, call, deadline⟩, mine, waits', -, asked, awaits⟩
  · rw [same, before] at sent
    cases sent
  · cases mine
    cases waits.symm.trans waits'
    rw [sent, before] at asked
    cases asked
    have others : w'.Throughout (fun m _ _ => m ≠ .turn 3 ∧ m ≠ .giveUp 3)
        [.ask (.refresh 0), .turn 4] :=
      fun _ _ => ⟨⟨nofun, nofun⟩, fun _ _ => ⟨⟨by simp, nofun⟩, trivial⟩⟩
    obtain ⟨-, still, ends⟩ := (comes _ w' turn awaits).2 _ v more others
    refine ⟨w, w', v, v', run, turn, more, answered, sent, still.trans unkept, ?_⟩
    rcases ends _ v' (.inl rfl) answered with ⟨-, same⟩ | ⟨grant, new, -, -, grants, keeps⟩
    · rw [show v'.kept 0 = w.kept 0 from same, unkept] at kept
      cases kept
    · exact ⟨new, keeps, grants.keys⟩

end TunnelKeeper.Coordinator
