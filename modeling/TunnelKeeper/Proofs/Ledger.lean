import Mathlib.Data.Finset.Card
import TunnelKeeper.Proofs.Cancellation

/-!
What the host has been told of the backend, and what is still owed to it. A backend that was ready
is taken away at once, but the host hears of it only when the tunnel has stopped, so until then a
task owes it a signal. A move makes one entry in this ledger, and the entries add up: every
registration that is taken away has been told of, is owed, or its teardown has been dropped.
-/

namespace TunnelKeeper.Coordinator

open World Cooperative

/-! ### Teardowns under way -/

/-- The tunnel that a teardown waits for to stop. -/
def Job.teardown? : Job → Option TunnelId
  | teardown p => some p.tunnel
  | _ => none

@[simp]
lemma Job.teardown?_rest : Job.rest.teardown? = none := rfl

namespace Roster

/-- The tasks that take a backend down, and have yet to tell so. -/
def owing (r : Roster) : Finset TaskId :=
  (Finset.range r.next).filter fun t => (r.job t).teardown?.isSome

variable {r : Roster} {t : TaskId} {o : Owner} {x y : Job}

namespace Sound

variable (sound : r.Sound)
include sound

lemma mem_owing : t ∈ r.owing ↔ (r.job t).teardown?.isSome = true := by
  unfold owing
  rw [Finset.mem_filter, Finset.mem_range, and_iff_right_iff_imp]
  intro owes
  by_contra late
  rw [sound.vacant t (sound.fresh t (Nat.le_of_not_lt late))] at owes
  cases owes

lemma owing_spawn (o : Owner) (idle : x.teardown? = none) : (r.spawn o x).owing = r.owing := by
  ext u
  rw [(sound.spawn o x).mem_owing, sound.mem_owing, sound.job_spawn]
  split
  · next new => simp [new, idle, sound.vacant _ (sound.fresh _ (Nat.le_refl _))]
  · exact Iff.rfl

lemma owing_pass_of_some {n : TunnelId} (own : r.owner t = some o) (owes : y.teardown? = some n) :
    (r.pass t y).owing = insert t r.owing := by
  ext u
  rw [Finset.mem_insert, (sound.pass own y).mem_owing, sound.mem_owing]
  by_cases same : u = t
  · simp [same, owes]
  · simp [same, job_pass_of_ne]

lemma owing_pass_of_none (own : r.owner t = some o) (idle : y.teardown? = none) :
    (r.pass t y).owing = r.owing.erase t := by
  ext u
  rw [Finset.mem_erase, (sound.pass own y).mem_owing, sound.mem_owing]
  by_cases same : u = t
  · simp [same, idle]
  · simp [same, job_pass_of_ne]

lemma owing_remove (own : r.owner t = some o) : (r.remove t).owing = r.owing.erase t :=
  sound.owing_pass_of_none own rfl

end Sound

end Roster

/-! ### The ledger -/

/-- The signal that a backend has come up or has been taken down. -/
def Event.backendSignal? : Event → Option RemoteEvent
  | signal .backendUp => some .backendUp
  | signal .backendDown => some .backendDown
  | _ => none

/-- What the host has been told of the backend, and what is owed to it. -/
structure Ledger where
  state : State
  /-- The signals of backends that came up or were taken down, the latest first. -/
  signals : List RemoteEvent
  /-- The tasks that take a backend down, and have yet to tell so. -/
  owing : Finset TaskId

namespace Ledger

/-- How often the host has been told that a backend is down. -/
def downs (a : Ledger) : Nat := a.signals.count .backendDown

/-- A backend with a registration is taken away. -/
def takesRegistered (a b : Ledger) : Bool :=
  decide (b.state = a.state.take.2) && a.state.phase.registration?.isSome

/-- What one move enters in the ledger, and the tunnel of a teardown that is dropped in it. -/
inductive Entry : Ledger → Ledger → Option TunnelId → Prop where
  /-- Whatever happens, it is no matter of the host's. -/
  | still {s s' : State} {signals : List RemoteEvent} {owing : Finset TaskId}
      (active : s'.active? = s.active?) (stays : s' ≠ s.take.2) :
      Entry ⟨s, signals, owing⟩ ⟨s', signals, owing⟩ none
  | up {s s' : State} {signals : List RemoteEvent} {owing : Finset TaskId}
      (unready : s.active? = none) (ready : s'.active? ≠ none) :
      Entry ⟨s, signals, owing⟩ ⟨s', .backendUp :: signals, owing⟩ none
  /-- A backend that is not ready is taken away, and the host is told at once. -/
  | taken {s : State} {signals : List RemoteEvent} {owing : Finset TaskId}
      (unready : s.active? = none) :
      Entry ⟨s, signals, owing⟩ ⟨s.take.2,
        if s.phase.registration?.isSome then .backendDown :: signals else signals, owing⟩ none
  /-- A backend that is ready is taken away, and a task owes the host a signal. -/
  | owes {s : State} {signals : List RemoteEvent} {owing : Finset TaskId} {t : TaskId}
      (ready : s.active? ≠ none) (new : t ∉ owing) :
      Entry ⟨s, signals, owing⟩ ⟨s.take.2, signals, insert t owing⟩ none
  | down {s : State} {signals : List RemoteEvent} {owing : Finset TaskId} {t : TaskId}
      (owed : t ∈ owing) :
      Entry ⟨s, signals, owing⟩ ⟨s, .backendDown :: signals, owing.erase t⟩ none
  | dropped {s : State} {signals : List RemoteEvent} {owing : Finset TaskId} {t : TaskId}
      {n : TunnelId} (owed : t ∈ owing) :
      Entry ⟨s, signals, owing⟩ ⟨s, signals, owing.erase t⟩ (some n)

namespace Entry

variable {a b : Ledger} {dropped? : Option TunnelId}

/-- A signal is owed for each registration that is taken away, until it is sent or dropped. -/
lemma balance (entry : Entry a b dropped?) :
    b.downs + b.owing.card + dropped?.isSome.toNat =
      a.downs + a.owing.card + (a.takesRegistered b).toNat := by
  have untaken {s s' : State} {l l' : List RemoteEvent} {o o' : Finset TaskId}
      (stays : s' ≠ s.take.2) : takesRegistered ⟨s, l, o⟩ ⟨s', l', o'⟩ = false := by
    simp [takesRegistered, stays]
  have same {s : State} : s ≠ s.take.2 := BackendState.ne_take rfl
  cases entry with
  | still active stays => simp [downs, untaken stays]
  | @up s s' _ _ unready ready =>
    have stays : s' ≠ s.take.2 := fun eq => ready (eq ▸ rfl)
    simp [downs, untaken stays]
  | @taken s signals =>
    cases registered : s.phase.registration?.isSome with
    | false => simp [downs, takesRegistered, registered]
    | true =>
      simp only [downs, takesRegistered, registered, List.count_cons_self, decide_true, if_true,
        Bool.and_self, Bool.toNat_true, Option.isSome_none, Bool.toNat_false]
      omega
  | @owes s _ _ _ ready new =>
    have registered : s.phase.registration?.isSome = true := by
      obtain ⟨b, ready⟩ := Option.ne_none_iff_exists'.1 ready
      rw [BackendState.active?_eq_some_iff.1 ready]
      rfl
    simp only [downs, takesRegistered, registered, Finset.card_insert_of_notMem new, decide_true,
      Bool.and_self, Bool.toNat_true, Option.isSome_none, Bool.toNat_false]
    omega
  | down owed =>
    have card := Finset.card_erase_add_one owed
    simp only [downs, untaken same, List.count_cons_self, Option.isSome_none, Bool.toNat_false]
    omega
  | dropped owed =>
    have card := Finset.card_erase_add_one owed
    simp only [downs, untaken same, Option.isSome_some, Bool.toNat_true, Bool.toNat_false]
    omega

lemma signals_of_unregistered (entry : Entry a b dropped?) (taken : b.state = a.state.take.2)
    (unregistered : a.state.phase.registration? = none) : b.signals = a.signals := by
  cases entry with
  | still _ stays => exact absurd taken stays
  | up _ ready =>
    dsimp only at taken
    rw [taken] at ready
    exact absurd rfl ready
  | taken => simp [unregistered]
  | down => exact absurd taken (BackendState.ne_take rfl)
  | owes | dropped => rfl

/-- If the last signal was that a backend is up, one is, or a signal is owed. -/
lemma ready_or_owing (entry : Entry a b dropped?) (kept : dropped? = none)
    (before : a.signals.head? = some .backendUp → a.state.active? ≠ none ∨ a.owing.Nonempty)
    (last : b.signals.head? = some .backendUp) : b.state.active? ≠ none ∨ b.owing.Nonempty := by
  cases entry with
  | still active => exact (before last).imp_left fun ready => active ▸ ready
  | up _ ready => exact .inl ready
  | @taken s signals owing unready =>
    dsimp only at last
    split at last
    · cases last
    · exact .inr ((before last).resolve_left fun ready => ready unready)
  | owes => exact .inr (Finset.insert_nonempty _ _)
  | down => cases last
  | dropped => cases kept

lemma last_up (entry : Entry a b dropped?)
    (timely : a.state.active? = none → b.state.active? ≠ none → a.owing = ∅)
    (before : a.state.active? ≠ none → a.signals.head? = some .backendUp ∧ a.owing = ∅)
    (ready : b.state.active? ≠ none) : b.signals.head? = some .backendUp ∧ b.owing = ∅ := by
  cases entry with
  | still active => exact before (active ▸ ready)
  | up unready => exact ⟨rfl, timely unready ready⟩
  | taken | owes => exact absurd rfl ready
  | down owed | dropped owed =>
    obtain ⟨-, empty⟩ := before ready
    dsimp only at empty
    rw [empty] at owed
    cases owed

end Entry

end Ledger

/-! ### Deeds -/

namespace Outline

variable (c : Outline)

def signals : List RemoteEvent := c.events.filterMap Event.backendSignal?

def ledger : Ledger := ⟨c.state, c.signals, c.owing⟩

end Outline

namespace Background

variable {t : TaskId} {o : Owner} {c d : Outline} {x y : Job} (back : Background c)
include back

lemma owing_of_deed (deed : Deed t o c x d y) : d.owing = c.owing := by
  rcases deed.roster with same | ⟨o', x', spawned, idle⟩
  · rw [same]
  · rw [spawned, back.sound.owing_spawn]
    rcases idle with rfl | ⟨p, r, -, -, -, rfl, -⟩ <;> rfl

lemma ledger_of_none (own : c.owner t = some o) (deed : Deed t o c x d y)
    (idle : y.teardown? = none) : (d.pass t y).ledger = ⟨d.state, d.signals, c.owing.erase t⟩ := by
  have own' : d.owner t = some o := Turned.owner_of_some (.once deed) own
  have owing := (back.deed deed).sound.owing_pass_of_none own' idle
  rw [back.owing_of_deed deed] at owing
  exact congrArg (Ledger.mk d.state d.signals) owing

lemma ledger_of_some {n : TunnelId} (own : c.owner t = some o) (deed : Deed t o c x d y)
    (owes : y.teardown? = some n) :
    (d.pass t y).ledger = ⟨d.state, d.signals, insert t c.owing⟩ := by
  have own' : d.owner t = some o := Turned.owner_of_some (.once deed) own
  have owing := (back.deed deed).sound.owing_pass_of_some own' owes
  rw [back.owing_of_deed deed] at owing
  exact congrArg (Ledger.mk d.state d.signals) owing

end Background

/-- A deed makes one entry in the ledger. A task that has been cancelled says nothing: if it is in
the middle of a teardown, that is dropped. -/
lemma Deed.entry {t : TaskId} {o : Owner} {c d : Outline} {x y : Job} (back : Background c)
    (own : c.owner t = some o) (at_it : c.job t = x)
    (tame : c.isCancelled t = true → d.signals = c.signals) (deed : Deed t o c x d y) :
    c.ledger.Entry (d.pass t y).ledger (if c.isCancelled t then x.teardown? else none) := by
  have mine : t ∈ c.owing ↔ x.teardown?.isSome = true := at_it ▸ back.sound.mem_owing
  have silent := back.ledger_of_none own deed
  have idly (idle : x.teardown? = none) (idle' : y.teardown? = none)
      (entry : c.ledger.Entry ⟨d.state, d.signals, c.owing⟩ none) :
      c.ledger.Entry (d.pass t y).ledger (if c.isCancelled t then x.teardown? else none) := by
    have nothing : t ∉ c.owing := by simp [mine, idle]
    rw [silent idle', Finset.erase_eq_of_notMem nothing, idle, ite_self]
    exact entry
  have still (idle : x.teardown? = none) (idle' : y.teardown? = none)
      (signals : d.signals = c.signals) (active : d.state.active? = c.state.active?)
      (stays : d.state ≠ c.state.take.2) :
      c.ledger.Entry (d.pass t y).ledger (if c.isCancelled t then x.teardown? else none) := by
    refine idly idle idle' ?_
    rw [signals]
    exact .still active stays
  have owing {n : TunnelId} := back.ledger_of_some (n := n) own deed
  have here : c.state ≠ c.state.take.2 := BackendState.ne_take rfl
  cases deed with
  | @dropped x _ cancelled checking =>
    rcases checking with rfl | ⟨p, rfl⟩ | ⟨p, rfl⟩
    · exact still rfl rfl rfl rfl here
    · exact still rfl rfl rfl rfl here
    · rw [silent rfl, if_pos cancelled]
      exact .dropped (mine.2 rfl)
  | @begin p _ _ idle =>
    rw [Outline.begin_eq] at still ⊢
    exact still rfl rfl rfl (BackendState.active?_of_idle idle).symm nofun
  | loadFailed now | registered _ now =>
    have same := congrArg BackendState.generation now
    exact still rfl rfl rfl (by rw [now]; rfl) (BackendState.ne_take same.symm)
  | stalled said =>
    refine still rfl rfl ?_ (BackendState.active?_setStalled _ _)
      (BackendState.ne_take (BackendState.setStalled_generation _ _))
    cases said <;> rfl
  | up _ autostart _ _ now =>
    have unready : c.state.active? = none := by
      rw [now]
      rfl
    refine idly rfl rfl ?_
    cases autostart <;> exact .up unready (Option.some_ne_none _)
  | @takeReady x r n withHandler stop _ asked ready =>
    have idle : x.teardown? = none := by cases withHandler <;> exact asked ▸ rfl
    have new : t ∉ c.owing := by simp [mine, idle]
    have active : c.state.active? ≠ none := BackendState.active?_ne_none_iff.2 ⟨r, n, ready⟩
    rw [owing rfl, idle, ite_self, Outline.take_eq]
    exact .owes active new
  | @take x withHandler _ asked unready =>
    have active : c.state.active? = none := by
      by_contra active
      obtain ⟨r, n, ready⟩ := BackendState.active?_ne_none_iff.1 active
      exact unready r n ready
    have signals : ((c.take withHandler).hearIf c.state.phase.registration?.isSome
        (.signal .backendDown)).signals =
          if c.state.phase.registration?.isSome then .backendDown :: c.signals else c.signals := by
      rw [Outline.take_eq]
      cases c.state.phase.registration?.isSome <;> rfl
    refine idly (by cases withHandler <;> exact asked ▸ rfl) rfl ?_
    rw [signals, Outline.hearIf_eq, Outline.take_eq]
    exact .taken active
  | @stopped p =>
    -- Whoever has been cancelled tells nobody, and this is told.
    have live : c.isCancelled t = false :=
      Bool.eq_false_iff.2 fun cancelled => List.cons_ne_self _ _ (tame cancelled)
    rw [silent rfl, live]
    exact .down (mine.2 rfl)
  | attemptOver | undone =>
    rw [Outline.endAttempt_eq] at still ⊢
    exact still rfl rfl rfl rfl here
  | connected lasting | connectedLate lasting =>
    rw [Outline.endAttempt_eq, Outline.connect_eq] at still ⊢
    exact still rfl rfl rfl rfl here
  | undo lasting =>
    rw [Outline.connect_eq] at still ⊢
    exact still rfl rfl rfl rfl here
  | _ => exact still rfl rfl rfl rfl here

lemma Turned.entry {t : TaskId} {o : Owner} {c d : Outline} {x y : Job} (back : Background c)
    (own : c.owner t = some o) (at_it : c.job t = x)
    (tame : c.isCancelled t = true → d.signals = c.signals) (turned : Turned t o c x d y) :
    c.ledger.Entry (d.pass t y).ledger (if c.isCancelled t then x.teardown? else none) := by
  cases turned with
  | once deed => exact deed.entry back own at_it tame
  | @andLost d _ _ _ deed =>
    have tame : c.isCancelled t = true → d.signals = c.signals := tame
    have entry := deed.entry back own at_it tame
    exact entry

lemma Outside.entry {c d : Outline} (sound : c.toRoster.Sound) (happened : Outside c d) :
    c.ledger.Entry d.ledger none := by
  have here : c.state ≠ c.state.take.2 := BackendState.ne_take rfl
  have still (state : d.state = c.state) (signals : d.signals = c.signals)
      (owing : d.owing = c.owing) : c.ledger.Entry d.ledger none := by
    unfold Outline.ledger
    rw [state, signals, owing]
    exact .still rfl here
  cases happened with
  | same | drop | host => exact still rfl rfl rfl
  | ask operation => exact still rfl rfl (sound.owing_spawn _ (by cases operation <;> rfl))
  | @giveUp t own idle =>
    have nothing : t ∉ c.owing := by simp [sound.mem_owing, idle]
    refine still rfl rfl ?_
    rw [show (c.remove t).owing = _ from sound.owing_remove own, Finset.erase_eq_of_notMem nothing]

/-! ### Moves -/

namespace World

/-- The signals of backends that came up or were taken down, the latest first. -/
def signals (w : World) : List RemoteEvent :=
  (w.trace.map Prod.snd).filterMap Event.backendSignal?

def ledger (w : World) : Ledger := ⟨w.state, w.signals, w.outline.owing⟩

lemma signals_eq (w : World) {p : Event → Bool} (all : ∀ e, e.backendSignal? ≠ none → p e = true) :
    ((w.trace.map Prod.snd).filter p).filterMap Event.backendSignal? = w.signals := by
  unfold signals
  rw [List.filterMap_filter]
  congr 1
  funext e
  by_cases kept : p e = true
  · rw [if_pos kept]
  · rw [if_neg kept]
    by_contra said
    exact kept (all e (Ne.symm said))

lemma outline_signals (w : World) : w.outline.signals = w.signals :=
  w.signals_eq fun e said => by
    cases e with
    | signal => rfl
    | _ => exact absurd rfl said

lemma outline_ledger (w : World) : w.outline.ledger = w.ledger := by
  unfold Outline.ledger ledger
  rw [outline_signals]
  rfl

end World

/-- The handler has been cancelled while it takes a backend down, and drops that in this move: the
tunnel that it was about to stop. -/
def Move.dropped? (m : Move) (w : World) : Option TunnelId :=
  match m with
  | turn t =>
    match w.schedule.point? t with
    | some (.handler (.check (.teardown p))) => if w.isCancelled t then some p.tunnel else none
    | _ => none
  | _ => none

lemma Move.dropped?_turn {t : TaskId} {task : Task} {w : World} (back : Background w.outline)
    (here : w.schedule.point? t = some task) :
    (Move.turn t).dropped? w = if w.isCancelled t then task.job.teardown? else none := by
  simp only [dropped?, here]
  have caller (own : task.owner = .caller) : w.isCancelled t = false := by
    refine Bool.eq_false_iff.2 fun cancelled => ?_
    rcases back.owner_of_cancelled cancelled (outline_owner here) with other | other
    · rw [own] at other
      cases other
    · rw [own] at other
      cases other
  cases task with
  | handler p =>
    cases p with
    | check p => cases p <;> simp [Task.job, HandlerPoint.job, CheckPoint.job, Job.teardown?]
    | _ => simp [Task.job, HandlerPoint.job]
  | guard g p => cases p <;> simp [Task.job, GuardPoint.job, Job.teardown?]
  | _ => simp [caller rfl]

/-- The host is told nothing in the turn of a task that has been cancelled. -/
lemma World.Tame.signals {w w' : World} (tame : w.Tame w') : w'.signals = w.signals := by
  have ventured (e : Event) (said : e.backendSignal? ≠ none) : e.isVenture = true := by
    cases e with
    | signal e => cases e <;> first | rfl | exact absurd rfl said
    | _ => exact absurd rfl said
  rw [← signals_eq w ventured, ← signals_eq w' ventured]
  exact congrArg (List.filterMap Event.backendSignal?) tame.ventures

/-- A move makes one entry in the ledger. -/
theorem Move.entry {m : Move} {w w' : World} (back : Background w.outline)
    (move : m.outcome? w = some w') : w.ledger.Entry w'.ledger (m.dropped? w) := by
  rw [← outline_ledger, ← outline_ledger]
  rcases Move.cases move with ⟨t, task, d, y, rfl, here, turned, ending⟩ | ⟨other, happened⟩
  · have tame (cancelled : w.outline.isCancelled t = true) : d.signals = w.outline.signals := by
      have same := (back.tame_turn cancelled move).signals
      rw [← outline_signals, ← outline_signals] at same
      unfold Outline.signals at same ⊢
      rw [← same, ending.events]
    have entry := turned.entry back (outline_owner here) (outline_job here) tame
    rw [dropped?_turn back here]
    generalize w'.outline = e at ending
    cases ending with
    | pass => exact entry
    | finish => exact entry
  · have none : m.dropped? w = none := by
      cases m with
      | turn t => exact absurd rfl (other t)
      | _ => rfl
    rw [none]
    exact happened.entry back.sound

end TunnelKeeper.Coordinator
