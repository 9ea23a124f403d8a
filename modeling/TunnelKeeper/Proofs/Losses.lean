import TunnelKeeper.Proofs.Supervision

/-!
Losses that the host does not hear of. A connection that is lost is reported by the guard that
watches it, or by whoever disconnects. So when nobody can go on, what the host believes of the
connection is right, but for two ways in which nobody watches: somebody has disconnected after the
loss and before the guard has reported it, or somebody else has connected while the guard was asleep
or in the middle of an attempt, where it still is.
-/

namespace TunnelKeeper.Coordinator

open World Cooperative

/-! ### What the host believes -/

/-- What an event says about the connection of the backend that is up: whether it is there. With a
backend that comes up, it is not. -/
def Event.link? : Event → Option Bool
  | signal .connected => some true
  | signal .disconnected => some false
  | signal .backendUp => some false
  | _ => none

def Outline.believed (c : Outline) : Bool := (c.heard.findSome? Event.link?).getD false

/-- The last that the host has heard of the connection, since a backend came up, is that it is
there. -/
def World.believed (w : World) : Bool := (w.heard.findSome? Event.link?).getD false

lemma World.outline_believed (w : World) : w.outline.believed = w.believed := by
  unfold Outline.believed World.believed
  rw [outline_heard]

lemma Outline.believed_of_added {c d : Outline} {e : Event} (added : d.events = e :: c.events) :
    d.believed = e.link?.getD c.believed := by
  unfold believed heard
  rw [added, List.filter_cons]
  cases e with
  | signal e => cases e <;> rfl
  | _ => rfl

namespace Deed

variable {t : TaskId} {o : Owner} {c d : Outline} {x y : Job}

lemma believed_cases (deed : Deed t o c x d y) (now : d.believed = true) :
    c.believed = true ∨ (∃ a, x = .attempt a ∧ a.InTime t c) ∧ y = .rest := by
  rcases deed.events_cases with same | ⟨e, added, voice⟩
  · left
    unfold Outline.believed Outline.heard at *
    rwa [← same]
  · rw [Outline.believed_of_added added] at now
    cases e with
    | signal e =>
      cases e with
      | connected => exact .inr voice
      | backendDown => exact .inl now
      | backendUp | disconnected => cases now
    | _ => exact .inl now

lemma believed_of_disconnect {p : DisconnectPoint} (deed : Deed t o c (.disconnect p) d y) :
    d.believed = false := by
  rw [deed.eq_of_disconnect]
  rfl

end Deed

variable {t u : TaskId} {g : Nat} {m : Move} {w w' : World}

namespace Move

lemma believed_cases (move : m.outcome? w = some w') (now : w'.believed = true) :
    w.believed = true ∨ ∃ t a, m = .turn t ∧ w.outline.job t = .attempt a ∧
      a.InTime t w.outline ∧ w'.outline.job t = .rest := by
  rw [← outline_believed] at now ⊢
  rcases Move.cases move with ⟨t, task, d, y, rfl, here, turned, ending⟩ | ⟨-, happened⟩
  · have now : d.believed = true := by
      unfold Outline.believed at now ⊢
      rwa [← ending.heard]
    cases turned with
    | once deed =>
      refine (deed.believed_cases now).imp_right ?_
      rintro ⟨⟨a, job, inTime⟩, rfl⟩
      exact ⟨t, a, rfl, (outline_job here).trans job, inTime, ending.job⟩
    | andLost => cases now
  · left
    unfold Outline.believed at now ⊢
    rwa [← happened.heard]

lemma believed_of_disconnect {p : DisconnectPoint} (move : (Move.turn t).outcome? w = some w')
    (at_it : w.outline.job t = .disconnect p) : w'.believed = false := by
  obtain ⟨task, d, y, here, turned, ending⟩ := turn_cases move
  rw [(outline_job here).symm.trans at_it] at turned
  rw [← outline_believed]
  unfold Outline.believed
  rw [ending.heard]
  cases turned with
  | once deed => exact deed.believed_of_disconnect
  | andLost attempt => cases attempt

/-- While the host believes in a connection, the backend that is ready is the one that it was. -/
lemma state_of_believed (move : m.outcome? w = some w') (ready : w'.state.active? ≠ none)
    (now : w'.believed = true) : w'.state = w.state := by
  obtain ⟨b, ready⟩ := Option.ne_none_iff_exists'.1 ready
  refine (World.ready_cases move ⟨_, _, BackendState.active?_eq_some_iff.1 ready⟩).resolve_right ?_
  intro up
  rw [← outline_believed, Outline.believed, up.heard] at now
  cases now

end Move

/-! ### The guard -/

/-- The guard does not watch the connection: it sleeps, or makes an attempt. -/
def GuardPoint.isAway : GuardPoint → Bool
  | sleep _ => true
  | attempt _ => true
  | _ => false

namespace Guard

lemma believed_of_round {q : GuardPoint} (goesOn : (round g w).2 = .wait q)
    (away : q.isAway = true) : (round g w).1.believed = false := by
  unfold round at goesOn ⊢
  split at goesOn
  · cases goesOn
  · split at goesOn
    · cases goesOn
      cases away
    · next down =>
      simp only [down]
      rfl

/-- A guard that is away after an attempt, and has not reported a loss, is still at it. -/
lemma wait_of_attempting {turn : Turn Attempt Result} {q : GuardPoint}
    (goesOn : (attempting t g turn).2 = .wait q) (away : q.isAway = true)
    (now : (attempting t g turn).1.believed = true) :
    (∃ a, turn.2 = .wait a) ∧ turn.1.believed = true := by
  obtain ⟨v, a | result | _⟩ := turn
  · exact ⟨⟨a, rfl⟩, now⟩
  · rcases attempting_done t g v result with ended | next
    · rw [ended] at goesOn
      cases goesOn
    · rw [next] at goesOn now
      cases (believed_of_round goesOn away).symm.trans now
  · cases goesOn

lemma away_of_resume {p q : GuardPoint} (goesOn : (resume t g p w).2 = .wait q)
    (away : q.isAway = true) (now : (resume t g p w).1.believed = true) :
    p.isAway = true ∧ w.believed = true := by
  cases p with
  | start => cases (believed_of_round goesOn away).symm.trans now
  | watch n =>
    unfold resume at goesOn now
    dsimp only at goesOn now
    split at goesOn
    · cases goesOn
    · next live =>
      rw [if_neg live] at now
      cases now
  | sleep due =>
    refine ⟨rfl, ?_⟩
    unfold resume at goesOn now
    dsimp only at goesOn now
    split at goesOn
    · cases goesOn
    · next live =>
      rw [if_neg live] at now
      obtain ⟨-, now⟩ := wait_of_attempting goesOn away now
      have deed := Connect.deed_start t (.guard g) true rfl w fun _ => Bool.eq_false_iff.2 live
      rw [← outline_believed] at now ⊢
      refine (deed.believed_cases now).resolve_right ?_
      rintro ⟨⟨a, attempt, -⟩, -⟩
      cases attempt
  | attempt a =>
    refine ⟨rfl, ?_⟩
    obtain ⟨⟨a', goesOn⟩, now⟩ := wait_of_attempting goesOn away now
    have deed := Connect.deed_resume t (.guard g) a w
    rw [← outline_believed] at now ⊢
    refine (deed.believed_cases now).resolve_right ?_
    rintro ⟨-, ended⟩
    rw [goesOn] at ended
    cases ended

end Guard

/-! ### Connections that come up unseen -/

def Task.isAway : Task → Bool
  | guard _ p => p.isAway
  | _ => false

/-- The guard in the slot does not watch the connection. -/
def World.guardAway (w : World) : Bool :=
  w.guardSlot.occupant.any fun t => (w.schedule.point? t).any Task.isAway

lemma World.guardAway_iff : w.guardAway = true ↔ ∃ t g p, w.guardSlot.occupant = some t ∧
    w.schedule.point? t = some (.guard g p) ∧ p.isAway = true := by
  constructor
  · intro away
    obtain ⟨t, inside, away⟩ := (Option.any_eq_true ..).1 away
    obtain ⟨task, here, away⟩ := (Option.any_eq_true ..).1 away
    cases task with
    | guard g p => exact ⟨t, g, p, inside, here, away⟩
    | _ => cases away
  · rintro ⟨t, g, p, inside, here, away⟩
    rw [guardAway, inside, Option.any_some, here]
    exact away

lemma Move.succeeds_of_inTime {a : Attempt} (back : Background w.outline)
    (at_it : w.outline.job t = .attempt a) (inTime : a.InTime t w.outline) :
    (Move.turn t).succeeds w = true := by
  have live : w.outline.isCancelled t = false := by
    cases guarded : a.guarded with
    | true => exact inTime.live guarded
    | false => exact live_of_unguarded back at_it guarded
  rw [Move.succeeds, attempt?_turn at_it, Option.any_some, Attempt.succeeds, inTime.success,
    decide_eq_true inTime.current, live]
  rfl

/-- A guard is away while the host believes in a connection if it has been so before, or a connection
has come up meanwhile. -/
lemma Move.away_before (back : Background w.outline) (move : m.outcome? w = some w')
    (gone : w'.guardAway = true) (now : w'.believed = true) :
    w.guardAway = true ∧ w.believed = true ∨ m.succeeds w = true := by
  obtain ⟨u, g, p, inside', there, away⟩ := guardAway_iff.1 gone
  have begun : p ≠ .start := by
    rintro rfl
    cases away
  have inside := inside_before back move inside' there begun
  by_cases mine : m = .turn u
  · subst mine
    left
    obtain ⟨p', here, goesOn, -, trace⟩ := guard_goes_on move there
    have now : (Guard.resume u g p' w).1.believed = true := by
      unfold World.believed World.heard at now ⊢
      rwa [← trace]
    obtain ⟨before, believed⟩ := Guard.away_of_resume goesOn away now
    exact ⟨guardAway_iff.2 ⟨u, g, p', inside, here, before⟩, believed⟩
  · have here := guard_before move there begun mine
    refine (believed_cases move now).imp (fun before => ?_) ?_
    · exact ⟨guardAway_iff.2 ⟨u, g, p, inside, here, away⟩, before⟩
    · rintro ⟨t, a, rfl, at_it, inTime, -⟩
      exact succeeds_of_inTime back at_it inTime

/-- The host believes that the backend that is ready is connected, and its guard is away. -/
structure World.Unseen (w : World) : Prop where
  ready : w.state.active? ≠ none
  believed : w.believed = true
  away : w.guardAway = true

lemma World.Unseen.before (back : Background w.outline) (move : m.outcome? w = some w')
    (h : w'.Unseen) : w.Unseen ∧ w'.state = w.state ∧ w'.guardAway = true ∨
      m.succeeds w = true ∧ w'.guardAway = true := by
  have state := Move.state_of_believed move h.ready h.believed
  rcases Move.away_before back move h.away h.believed with ⟨away, believed⟩ | succeeds
  · exact .inl ⟨⟨state ▸ h.ready, believed, away⟩, state, h.away⟩
  · exact .inr ⟨succeeds, h.away⟩

/-! ### Losses that nobody reports -/

/-- The backend is ready and its tunnel is down, and the host believes that it is connected. -/
def World.misleads (w : World) : Bool :=
  (w.state.active?.any fun b => !w.isConnected b.tunnel) && w.believed

lemma World.misleads_iff : w.misleads = true ↔
    (∃ b, w.state.active? = some b ∧ w.isConnected b.tunnel = false) ∧ w.believed = true := by
  simp [misleads, Option.any_eq_true]

/-- The host believes that the backend that is ready is connected, and there is neither a guard nor
anybody who disconnects. -/
structure World.Unwatched (w : World) : Prop where
  ready : w.state.active? ≠ none
  believed : w.believed = true
  alone : w.guardSlot.occupant = none
  idle : w.NobodyHangsUp

namespace World.Unwatched

lemma before (regular : w.Regular) (move : m.outcome? w = some w') (h : w'.Unwatched) :
    w.Unwatched ∧ w'.state = w.state ∧ w'.guardSlot.occupant = none ∨
      m.Disconnects w ∧ w.misleads = true := by
  have state := Move.state_of_believed move h.ready h.believed
  have ready : w.state.active? ≠ none := state ▸ h.ready
  have believed : w.believed = true := by
    refine (Move.believed_cases move h.believed).resolve_right ?_
    rintro ⟨t, a, rfl, at_it, inTime, ended⟩
    have ready := (regular.placed.served t a at_it).ready inTime.current
    exact Move.occupant_of_connected regular move at_it ready inTime.live ended h.alone
  by_cases alone : w.guardSlot.occupant = none
  · refine .inl ⟨⟨ready, believed, alone, fun u => ?_⟩, state, h.alone⟩
    refine Bool.eq_false_iff.2 fun hangs => ?_
    obtain ⟨p, at_it⟩ := Job.hangsUp_iff.1 hangs
    by_cases mine : m = .turn u
    · subst mine
      cases (Move.believed_of_disconnect move at_it).symm.trans h.believed
    · have kept := Move.job_kept regular.back move (at_it ▸ nofun) mine
      exact h.idle.job u p (kept.trans at_it)
  · right
    obtain ⟨u, inside⟩ := Option.ne_none_iff_exists'.1 alone
    have why := (regular.back.guard_leaves move inside (h.alone ▸ nofun)).1
    have disconnects : m.Disconnects w := why.resolve_right fun taken =>
      Nat.succ_ne_self _ (congrArg BackendState.generation (taken.symm.trans state))
    obtain ⟨b, ready⟩ := Option.ne_none_iff_exists'.1 ready
    refine ⟨disconnects, misleads_iff.2 ⟨⟨b, ready, ?_⟩, believed⟩⟩
    obtain ⟨t, entry, rfl, here⟩ := disconnects
    refine Bool.eq_false_iff.2 fun up => ?_
    obtain ⟨p, at_it, -⟩ := Move.disconnect_of_connected regular.back here move ready up
    exact h.idle.job t p at_it

end World.Unwatched

/-! ### What guards watch -/

/-- A guard that watches a connection from its slot watches that of the backend that is ready. -/
def World.WatchesOwn (w : World) : Prop :=
  ∀ t g n, w.guardSlot.occupant = some t → w.schedule.point? t = some (.guard g (.watch n)) →
    ∃ b, w.state.active? = some b ∧ b.tunnel = n

namespace Guard

lemma ready_of_round {n : TunnelId} (goesOn : (round g w).2 = .wait (.watch n)) :
    (round g w).1 = w ∧ ∃ b, w.state.active? = some b ∧ b.tunnel = n := by
  unfold round at goesOn ⊢
  cases ready : w.state.activeFor? g with
  | none => simp [ready] at goesOn
  | some b =>
    cases up : w.isConnected b.tunnel with
    | true =>
      simp only [ready, up] at goesOn ⊢
      cases goesOn
      exact ⟨rfl, b, (Option.filter_eq_some_iff.1 ready).1, rfl⟩
    | false =>
      simp only [ready, up] at goesOn
      cases goesOn

lemma ready_of_attempting {turn : Turn Attempt Result} {n : TunnelId}
    (goesOn : (attempting t g turn).2 = .wait (.watch n)) :
    ∃ b, (attempting t g turn).1.state.active? = some b ∧ b.tunnel = n := by
  obtain ⟨v, a | result | _⟩ := turn
  · cases goesOn
  · rcases attempting_done t g v result with ended | next
    · rw [ended] at goesOn
      cases goesOn
    · rw [next] at goesOn ⊢
      obtain ⟨same, ready⟩ := ready_of_round goesOn
      rwa [same]
  · cases goesOn

lemma ready_of_resume {p : GuardPoint} {n : TunnelId}
    (goesOn : (resume t g p w).2 = .wait (.watch n)) :
    ∃ b, (resume t g p w).1.state.active? = some b ∧ b.tunnel = n := by
  cases p with
  | start =>
    obtain ⟨same, ready⟩ := ready_of_round goesOn
    rwa [show (resume t g .start w).1 = w from same]
  | watch n =>
    unfold resume at goesOn
    dsimp only at goesOn
    split at goesOn <;> cases goesOn
  | sleep due =>
    unfold resume at goesOn ⊢
    dsimp only at goesOn ⊢
    split at goesOn
    · cases goesOn
    · next live =>
      rw [if_neg live]
      exact ready_of_attempting goesOn
  | attempt a => exact ready_of_attempting goesOn

end Guard

lemma World.WatchesOwn.move (h : w.WatchesOwn) (back : Background w.outline)
    (move : m.outcome? w = some w') : w'.WatchesOwn := by
  intro u g n inside there
  by_cases mine : m = .turn u
  · subst mine
    obtain ⟨p, -, goesOn, state, -⟩ := Move.guard_goes_on move there
    rw [state]
    exact Guard.ready_of_resume goesOn
  · have here := Move.guard_before move there nofun mine
    have before := Move.inside_before back move inside there nofun
    obtain ⟨b, ready, same⟩ := h u g n before here
    have stays := (Move.state_of_ready move (BackendState.active?_eq_some_iff.1 ready)).resolve_right
      fun taken => ((back.step (Move.step move)).ready u inside).2
        (show w'.state.active? = none by rw [taken]; rfl)
    exact ⟨b, stays ▸ ready, same⟩

/-! ### When all is still -/

/-- The task carries out an operation that somebody has asked for. -/
def Task.isCall : Task → Bool
  | asked _ _ => true
  | load _ _ => true
  | teardown _ _ => true
  | connect _ _ => true
  | disconnect _ _ => true
  | check _ _ => true
  | refresh _ _ _ => true
  | lookUp _ _ => true
  | _ => false

lemma Task.isCall_of_hangsUp {task : Task} (hangs : task.job.hangsUp = true) :
    task.isCall = true := by
  cases task with
  | handler p =>
    rcases p.job_cases with eq | ⟨q, eq⟩ | ⟨q, eq⟩ <;> simp [job, eq, Job.hangsUp] at hangs
  | guard g p => cases p <;> cases hangs
  | startLoad | detachedLoad | setup | autostart | autoconnect => cases hangs
  | _ => rfl

namespace World

/-- No operation is under way, and nobody can go on unless time passes or something happens. -/
def Still (w : World) : Prop :=
  ∀ t task, w.schedule.point? t = some task → task.isCall = false ∧ w.ready t task = false

def still (w : World) : Bool :=
  w.schedule.tasks.all fun (t, task) => !task.isCall && !w.ready t task

lemma still_of (all : w.still = true) : w.Still := by
  intro t task here
  have both := List.all_eq_true.1 all (t, task) (Schedule.mem_of_point? here)
  simpa using both

lemma Still.nobodyHangsUp (h : w.Still) : w.NobodyHangsUp := by
  intro t
  cases here : w.schedule.point? t with
  | none => exact hangsUp_of_none here
  | some task =>
    rw [hangsUp, outline_job here]
    refine Bool.eq_false_iff.2 fun hangs => ?_
    cases (h t task here).1.symm.trans (Task.isCall_of_hangsUp hangs)

/-- When all is still and the tunnel is down, a guard in its slot is away. -/
lemma Still.guardAway {b : Active} (h : w.Still) (back : Background w.outline)
    (watches : w.WatchesOwn) (ready : w.state.active? = some b)
    (down : w.isConnected b.tunnel = false) (inside : w.guardSlot.occupant = some t) :
    w.guardAway = true := by
  obtain ⟨task, here, own⟩ := Option.map_eq_some_iff.1 (back.ready t inside).1
  cases task with
  | guard g p =>
    have waits := (h t _ here).2
    cases p with
    | start => cases waits
    | watch n =>
      obtain ⟨b', ready', rfl⟩ := watches t g n inside here
      cases ready.symm.trans ready'
      have arrived : w.ready t (.guard g (.watch b.tunnel)) = true := by
        simp [World.ready, arrived, Task.wait, GuardPoint.wait, down]
      cases waits.symm.trans arrived
    | sleep | attempt => exact guardAway_iff.2 ⟨t, g, _, inside, here, rfl⟩
  | _ => cases own

end World

/-- **The host hears of a connection that is lost**: when all is still and the backend is ready but
not connected, the host does not believe that it is, but for two cases. Somebody has disconnected
while the connection was lost and the host had not heard of it, and there has been no guard since.
Or a connection has come up while the guard was away, and the guard has been away since. -/
theorem host_hears_of_losses {s : Setting} {moves : List Move} {w : World}
    (run : s.world.after? moves = some w) (still : w.Still) :
    w.misleads = false ∨
      s.world.Since (fun m v _ => m.Disconnects v ∧ v.misleads = true)
        (fun _ v v' => v'.state = v.state ∧ v'.guardSlot.occupant = none) moves ∨
      s.world.Since (fun m v v' => m.succeeds v = true ∧ v'.guardAway = true)
        (fun _ v v' => v'.state = v.state ∧ v'.guardAway = true) moves := by
  cases misled : w.misleads with
  | false => exact .inl rfl
  | true =>
    right
    obtain ⟨⟨b, ready, down⟩, believed⟩ := misleads_iff.1 misled
    have regular : s.world.Regular := (Reaches.refl _).regular
    have there : w.state.active? ≠ none := ready ▸ nofun
    cases slot : w.guardSlot.occupant with
    | none =>
      left
      have unwatched : w.Unwatched := ⟨there, believed, slot, still.nobodyHangsUp⟩
      have since := throughout_or_since_of (I := Regular) (R := Unwatched)
        (fun move h => h.move move) (fun move h => Unwatched.before h move) run regular unwatched
      exact since.resolve_left fun first => first.1.ready rfl
    | some t =>
      right
      obtain ⟨regular', watches⟩ : w.Regular ∧ w.WatchesOwn :=
        Reaches.keeps (P := fun v => v.Regular ∧ v.WatchesOwn)
          (fun move h => ⟨h.1.move move, h.2.move h.1.back move⟩) ⟨moves, run⟩ ⟨regular, nofun⟩
      have unseen : w.Unseen :=
        ⟨there, believed, still.guardAway regular'.back watches ready down slot⟩
      have since := throughout_or_since_of (I := Regular) (R := Unseen)
        (fun move h => h.move move) (fun move h => Unseen.before h.back move) run regular unseen
      exact since.resolve_left fun first => first.1.ready rfl

/-- The guard has reported that the connection is lost, and sleeps. -/
def reported : List Move := firstBackend ++ [.turn 4, .drop none, .turn 4]

theorem reported_loss_is_heard : ∃ w : World,
    ({} : Setting).world.after? reported = some w ∧ w.Still ∧ w.state.active? = some ⟨1, 0, 0⟩ ∧
      w.isConnected 0 = false ∧ w.believed = false := by
  have seen : (({} : Setting).world.after? reported).map (fun w =>
      (w.still, w.state.active?, w.isConnected 0,
        decide (({} : Setting).world.Since (fun m v _ => m.Disconnects v ∧ v.misleads = true)
          (fun _ v v' => v'.state = v.state ∧ v'.guardSlot.occupant = none) reported),
        decide (({} : Setting).world.Since (fun m v v' => m.succeeds v = true ∧ v'.guardAway = true)
          (fun _ v v' => v'.state = v.state ∧ v'.guardAway = true) reported))) =
      some (true, some ⟨1, 0, 0⟩, false, false, false) := rfl
  obtain ⟨w, run, seen⟩ := Option.map_eq_some_iff.1 seen
  simp only [Prod.mk.injEq, decide_eq_false_iff_not] at seen
  obtain ⟨still, ready, down, undisturbed, unseen⟩ := seen
  refine ⟨w, run, still_of still, ready, down, Bool.eq_false_iff.2 fun believed => ?_⟩
  rcases host_hears_of_losses run (still_of still) with right | disturbed | seen
  · have misled : w.misleads = true := misleads_iff.2 ⟨⟨_, ready, down⟩, believed⟩
    cases right.symm.trans misled
  · exact undisturbed disturbed
  · exact unseen seen

/-- While the guard sleeps, somebody connects, and the connection is lost again. -/
def lostAgain : List Move :=
  reported ++ [.ask .connect, .turn 5, .turn 5, .turn 5, .turn 5, .drop none]

/-- Nobody watches, and the host believes that there is a connection. -/
theorem second_loss_is_not_heard : ∃ w : World,
    ({} : Setting).world.after? lostAgain = some w ∧ w.Still ∧ w.builds = [] ∧
      w.state.active? = some ⟨1, 0, 0⟩ ∧ w.isConnected 0 = false ∧ w.believed = true := by
  have seen : (({} : Setting).world.after? lostAgain).map (fun w =>
      (w.still, w.builds, w.state.active?, w.isConnected 0, w.believed)) =
      some (true, [], some ⟨1, 0, 0⟩, false, true) := rfl
  obtain ⟨w, run, seen⟩ := Option.map_eq_some_iff.1 seen
  simp only [Prod.mk.injEq] at seen
  obtain ⟨still, builds, ready, down, believed⟩ := seen
  exact ⟨w, run, still_of still, builds, ready, down, believed⟩

end TunnelKeeper.Coordinator
