import TunnelKeeper.Proofs.Closing
import TunnelKeeper.Proofs.Ledger

/-!
What the host hears of the backend. It hears once that a backend is down for each registration that
is taken away, unless the handler is cancelled while it waits for the tunnel to stop. And the last
that it hears tells whether a backend is ready, unless another backend comes up before the host has
heard of the end of the last one.
-/

namespace TunnelKeeper.Coordinator

open World Cooperative

/-! ### Tunnels that are left stopping -/

/-- Whoever is told to stop a tunnel does so, or it has been stopping before; then its task goes on
to wait for that, or it is dropped. -/
lemma Deed.stopping_cases {t : TaskId} {o : Owner} {c d : Outline} {x y : Job} {n : TunnelId}
    (h : c.Owns) (at_it : c.job t = x) (deed : Deed t o c x d y)
    (stopping : stageOf d.tunnels n = some .stopping) :
    y.stops = some n ∨ stageOf c.tunnels n = some .stopping ∧
      (x.stops = some n → c.isCancelled t = true ∧ x.teardown? = some n) := by
  have idly (idle : x.stops = none) (stopping : stageOf c.tunnels n = some .stopping) :
      stageOf c.tunnels n = some .stopping ∧
        (x.stops = some n → c.isCancelled t = true ∧ x.teardown? = some n) :=
    ⟨stopping, fun mine => by simp [idle] at mine⟩
  cases deed.staged h at_it with
  | same stage _ idle =>
    rw [stage] at stopping
    exact .inr (idly idle stopping)
  | dropped stage _ cancelled checking =>
    rw [stage] at stopping
    refine .inr ⟨stopping, fun mine => ⟨cancelled, ?_⟩⟩
    rcases checking with rfl | ⟨p, rfl⟩ | ⟨p, rfl⟩
    · cases mine
    · cases mine
    · exact mine
  | made _ stage _ idle | up _ stage _ idle =>
    rw [stage, Function.update_apply] at stopping
    split at stopping
    · cases stopping
    · exact .inr (idly idle stopping)
  | discard _ stage _ idle stops | taken _ stage _ idle stops =>
    rw [stage, Function.update_apply] at stopping
    split at stopping
    · next same => exact .inl (same ▸ stops)
    · exact .inr (idly idle stopping)
  | stopped there _ tunnels _ stops =>
    rw [Staged.stage_of_stopped there tunnels, Function.update_apply] at stopping
    split at stopping
    · cases stopping
    · next other =>
      refine .inr ⟨stopping, fun mine => ?_⟩
      exact absurd (Option.some.inj (mine.symm.trans stops)) other

/-- A tunnel has been told to stop, and nobody waits for that any more. -/
def World.Forsaken (n : TunnelId) (w : World) : Prop :=
  stageOf w.tunnels n = some .stopping ∧ ∀ t, (w.outline.job t).stops ≠ some n

lemma World.Forsaken.before {n : TunnelId} {m : Move} {w w' : World} (regular : w.Regular)
    (move : m.outcome? w = some w') (h : w'.Forsaken n) : w.Forsaken n ∨ m.dropped? w = some n := by
  obtain ⟨stopping, nobody⟩ := h
  have kept (u : TaskId) (other : m ≠ .turn u) : (w.outline.job u).stops ≠ some n := by
    intro mine
    have busy : w.outline.job u ≠ .rest := by
      intro idle
      rw [idle] at mine
      cases mine
    exact nobody u (by rw [Move.job_kept regular.back move busy other, mine])
  rcases Move.cases move with ⟨t, task, d, y, rfl, here, turned, ending⟩ | ⟨other, happened⟩
  · have others (u : TaskId) (other : u ≠ t) : (w.outline.job u).stops ≠ some n :=
      kept u fun same => other (Move.turn.inj same).symm
    have stages : y.stops = some n ∨ stageOf w.tunnels n = some .stopping ∧
        (task.job.stops = some n → w.isCancelled t = true ∧ task.job.teardown? = some n) := by
      have stopping : stageOf d.tunnels n = some .stopping := by
        rw [← ending.tunnels]
        exact stopping
      cases turned with
      | once deed => exact deed.stopping_cases regular.owns (outline_job here) stopping
      | andLost _ deed => exact deed.stopping_cases regular.owns (outline_job here) stopping
    rcases stages with stops | ⟨before, dropped⟩
    · exact absurd stops (ending.job ▸ nobody t)
    · by_cases mine : task.job.stops = some n
      · obtain ⟨cancelled, teardown⟩ := dropped mine
        right
        rw [Move.dropped?_turn regular.back here, if_pos cancelled, teardown]
      · refine .inl ⟨before, fun u => ?_⟩
        by_cases same : u = t
        · rwa [same, outline_job here]
        · exact others u same
  · refine .inl ⟨?_, fun u => kept u (other u)⟩
    have stage : stageOf w'.tunnels = stageOf w.tunnels := happened.stageOf_tunnels
    rwa [stage] at stopping

/-! ### Settled worlds -/

lemma Task.pends_of_stops {task : Task} {n : TunnelId} (stops : task.job.stops = some n) :
    task.pends = true := by
  cases task with
  | teardown => rfl
  | setup p =>
    obtain ⟨g, r, step⟩ := p
    cases step with
    | discard => rfl
    | _ => cases stops
  | check _ p =>
    cases p with
    | teardown => rfl
    | _ => cases stops
  | handler p =>
    cases p with
    | check p =>
      cases p with
      | teardown => rfl
      | _ => cases stops
    | _ => cases stops
  | asked _ operation => cases operation <;> cases stops
  | guard _ p => cases p <;> cases stops
  | _ => cases stops

namespace World.Settled

variable {w : World}

lemma not_stops (settled : w.Settled) (t : TaskId) (n : TunnelId) :
    (w.outline.job t).stops ≠ some n := by
  intro stops
  cases here : w.schedule.point? t with
  | none =>
    rw [show w.outline.job t = .rest from congrArg jobOf here] at stops
    cases stops
  | some task =>
    rw [outline_job here] at stops
    have pends := Task.pends_of_stops stops
    rw [(settled t task here).1] at pends
    cases pends

lemma owing_eq_empty (settled : w.Settled) (back : Background w.outline) : w.outline.owing = ∅ := by
  refine Finset.eq_empty_of_forall_notMem fun t owes => ?_
  rw [back.sound.mem_owing] at owes
  obtain ⟨n, teardown⟩ := Option.isSome_iff_exists.1 owes
  refine settled.not_stops t n ?_
  cases job : w.outline.job t with
  | teardown p =>
    rw [job] at teardown
    exact teardown
  | _ =>
    rw [job] at teardown
    cases teardown

end World.Settled

/-! ### Signals that a backend is down -/

/-- In this move, a backend with a registration is taken away. -/
def Move.takesRegistered (m : Move) (w : World) : Bool :=
  (m.outcome? w).any fun v => decide (w.TakesAway v) && w.state.phase.registration?.isSome

/-- A move that takes a registration away leaves a signal that is sent or owed. -/
lemma Move.balance {m : Move} {w w' : World} (back : Background w.outline)
    (move : m.outcome? w = some w') :
    w'.ledger.downs + w'.ledger.owing.card + (m.dropped? w).isSome.toNat =
      w.ledger.downs + w.ledger.owing.card + (m.takesRegistered w).toNat := by
  have takes : m.takesRegistered w = w.ledger.takesRegistered w'.ledger := by
    rw [takesRegistered, move]
    rfl
  rw [takes]
  exact (Move.entry back move).balance

/-- Each registration that is taken away is told of, is owed, or has been dropped. -/
lemma World.downs_add_owing {s : Setting} {w : World} {moves : List Move}
    (run : s.world.after? moves = some w) :
    w.ledger.downs + w.outline.owing.card +
        s.world.tally (fun m v => (m.dropped? v).isSome) moves =
      s.world.tally Move.takesRegistered moves := by
  have counted := add_tally_eq (P := Move.takesRegistered) (Q := fun m v => (m.dropped? v).isSome)
    (I := fun v => Background v.outline) (f := fun v => v.ledger.downs + v.ledger.owing.card)
    (fun move back => back.step (Move.step move)) (fun move back => Move.balance back move) run
    s.background
  rwa [show s.world.ledger.downs + s.world.ledger.owing.card = 0 from rfl, Nat.zero_add] at counted

/-- What is ready when it is taken away has been told to stop ever since. -/
lemma World.told_of_taken {s : Setting} {w : World} {moves : List Move} {r : CycleId} {n : TunnelId}
    (run : s.world.after? moves = some w)
    (taken : s.world.Sometime (fun _ v v' => v.TakesAway v' ∧ v.state.phase = .ready r n) moves) :
    (stageOf w.tunnels n).any TunnelStage.told = true := by
  refine taken.brings (I := World.Regular) (Q := fun _ _ _ => True)
    (R := fun v => (stageOf v.tunnels n).any TunnelStage.told = true)
    (fun move _ h => h.move move) (fun {m u v} move taken before after => ?_)
    (fun move h told => (Move.follows h.owns move n).told told)
    (throughout_of (I := fun _ => True) (fun _ _ => ⟨trivial, trivial⟩) trivial moves) run
    (Reaches.regular (.refl _))
  obtain ⟨taken, ready⟩ := taken
  have begun : v.outline.begun n = true := by
    refine (Move.follows before.owns move n).begun ?_
    rw [Outline.begun, before.owns.ready r n ready]
    rfl
  obtain ⟨stage, there, begun⟩ := (Option.any_eq_true ..).1 begun
  show (stageOf v.outline.tunnels n).any TunnelStage.told = true
  rw [there]
  cases stage with
  | created => cases begun
  | running =>
    obtain ⟨r', still⟩ := after.owns.running n there
    rw [show v.outline.state = u.state.take.2 from taken] at still
    cases still
  | stopping | stopped => rfl

/-- **Every teardown is told of once**, unless the handler is cancelled in the middle of it. The host
hears that a backend is down as often as a registration has been taken away, but for what is still
owed to it and for what has been dropped. Once all is settled, nothing is owed, and the tunnel of a
backend that was ready when it was taken away has stopped, unless its teardown has been dropped. And
the host is told nothing where there was no registration. -/
theorem every_teardown_is_told {s : Setting} {moves : List Move} {w : World}
    (run : s.world.after? moves = some w) :
    w.signals.count .backendDown + w.outline.owing.card +
        s.world.tally (fun m v => (m.dropped? v).isSome) moves =
      s.world.tally Move.takesRegistered moves ∧
    (w.Settled → w.outline.owing = ∅ ∧
      ∀ r n, s.world.Sometime (fun _ v v' => v.TakesAway v' ∧ v.state.phase = .ready r n) moves →
        stageOf w.tunnels n = some .stopped ∨
          s.world.Sometime (fun m v _ => m.dropped? v = some n) moves) ∧
    ∀ m w', Move.outcome? m w = some w' → w.TakesAway w' → w.state.phase.registration? = none →
      w'.signals = w.signals := by
  have regular : w.Regular := Reaches.regular ⟨moves, run⟩
  refine ⟨downs_add_owing run, fun settled => ⟨settled.owing_eq_empty regular.back, ?_⟩, ?_⟩
  · intro r n taken
    obtain ⟨stage, there, told⟩ := (Option.any_eq_true ..).1 (told_of_taken run taken)
    cases stage with
    | created | running => cases told
    | stopped => exact .inl there
    | stopping =>
      right
      have forsaken : w.Forsaken n := ⟨there, fun t => settled.not_stops t n⟩
      exact sometime_of (R := fun v => v.Forsaken n) (fun move h => h.move move)
        (fun move h now => now.before h move) run (Reaches.regular (.refl _)) nofun forsaken
  · intro m w' move taken unregistered
    exact (Move.entry regular.back move).signals_of_unregistered taken unregistered

/-- A first backend comes up and is closed. -/
def closedBackend : List Move := firstLoad ++ [.ask .close, .turn 3, .turn 1, .turn 3]

/-- The host hears once that it is down, and its tunnel has stopped. -/
theorem closed_backend_is_told : ∃ w : World,
    ({} : Setting).world.after? closedBackend = some w ∧ w.Settled ∧
      w.signals.count .backendDown = 1 ∧ stageOf w.tunnels 0 = some .stopped := by
  have seen : (({} : Setting).world.after? closedBackend).map (fun w => (w.settled,
      ({} : Setting).world.tally Move.takesRegistered closedBackend,
      ({} : Setting).world.tally (fun m v => (m.dropped? v).isSome) closedBackend)) =
      some (true, 1, 0) := rfl
  have taken : ({} : Setting).world.Sometime
      (fun _ v v' => v.TakesAway v' ∧ v.state.phase = .ready 0 0) closedBackend := by
    decide +kernel
  have kept : ¬ ({} : Setting).world.Sometime (fun m v _ => m.dropped? v = some 0)
      closedBackend := by
    decide +kernel
  obtain ⟨w, run, seen⟩ := Option.map_eq_some_iff.1 seen
  simp only [Prod.mk.injEq] at seen
  obtain ⟨settled, takes, drops⟩ := seen
  have settled := settled_of settled
  obtain ⟨balance, told, -⟩ := every_teardown_is_told run
  obtain ⟨nothing, stopped⟩ := told settled
  refine ⟨w, run, settled, ?_, (stopped 0 0 taken).resolve_right kept⟩
  rwa [takes, drops, nothing, Finset.card_empty] at balance

/-- The first certificate that is issued lasts for ten days only, and a tunnel takes ten seconds to
stop. -/
def Setting.slowNight : Setting where
  scripts := { Setting.shortLived.scripts with
    stop := { entries := [{ delay := 10000, answer := () }], usual := () } }

/-- In the first night, the handler renews the certificate and takes the backend down; while the
tunnel stops, the backend is closed. -/
def closedAtNight : List Move :=
  firstLoad ++ [.time 86401000, .turn 1, .turn 1, .ask .close, .turn 3, .turn 1, .time 86421000]

/-- The host never hears that the backend is down. -/
theorem teardown_dropped_at_night : ∃ w : World,
    Setting.slowNight.world.after? closedAtNight = some w ∧ w.Settled ∧
      Setting.slowNight.world.tally Move.takesRegistered closedAtNight = 1 ∧
      w.signals.count .backendDown = 0 ∧ stageOf w.tunnels 0 = some .stopping := by
  have seen : (Setting.slowNight.world.after? closedAtNight).map (fun w => (w.settled,
      Setting.slowNight.world.tally Move.takesRegistered closedAtNight,
      w.signals.count .backendDown, stageOf w.tunnels 0)) =
      some (true, 1, 0, some .stopping) := rfl
  obtain ⟨w, run, seen⟩ := Option.map_eq_some_iff.1 seen
  simp only [Prod.mk.injEq] at seen
  obtain ⟨settled, takes, silent, stopping⟩ := seen
  exact ⟨w, run, settled_of settled, takes, silent, stopping⟩

/-! ### The last signal -/

/-- Between two worlds, a backend comes up before the host has heard that the last one is down. -/
def World.Overtakes (w w' : World) : Prop :=
  w.state.active? = none ∧ w'.state.active? ≠ none ∧ w.outline.owing.Nonempty

instance (w w' : World) : Decidable (w.Overtakes w') := inferInstanceAs (Decidable (_ ∧ _ ∧ _))

/-- **The last signal tells whether a backend is ready.** If one is, the host has last heard that a
backend is up, as long as none came up before the host had heard that the last one is down. And if
that is what it has last heard, a backend is ready once all is settled, as long as no teardown has
been dropped. -/
theorem last_signal_tells_phase {s : Setting} {moves : List Move} {w : World}
    (run : s.world.after? moves = some w) :
    (s.world.Throughout (fun _ v v' => ¬ v.Overtakes v') moves →
      (∃ r n, w.state.phase = .ready r n) → w.signals.head? = some .backendUp) ∧
    (s.world.Throughout (fun m v _ => m.dropped? v = none) moves → w.Settled →
      w.signals.head? = some .backendUp → ∃ r n, w.state.phase = .ready r n) := by
  rw [← BackendState.active?_ne_none_iff]
  constructor
  · intro timely ready
    have kept := timely.keeps (I := fun v => Background v.outline ∧
        (v.state.active? ≠ none → v.signals.head? = some .backendUp ∧ v.outline.owing = ∅))
      (fun {m u v} move timely h => ⟨h.1.step (Move.step move),
        (Move.entry h.1 move).last_up (fun unready ready => by
          by_contra owing
          exact timely ⟨unready, ready, Finset.nonempty_iff_ne_empty.2 owing⟩) h.2⟩)
      run ⟨s.background, nofun⟩
    exact (kept.2 ready).1
  · intro undropped settled last
    have kept := undropped.keeps (I := fun v => Background v.outline ∧
        (v.signals.head? = some .backendUp → v.state.active? ≠ none ∨ v.outline.owing.Nonempty))
      (fun move undropped h => ⟨h.1.step (Move.step move),
        (Move.entry h.1 move).ready_or_owing undropped h.2⟩)
      run ⟨s.background, nofun⟩
    refine (kept.2 last).resolve_right fun owing => ?_
    rw [settled.owing_eq_empty kept.1] at owing
    exact Finset.not_nonempty_empty owing

/-- The first backend is closed, and another one comes up. -/
def loadedAnew : List Move :=
  closedBackend ++ [.ask .load, .turn 4, .turn 5, .turn 4, .turn 4, .turn 6, .turn 6, .build,
    .turn 6, .turn 6]

/-- The host has heard of both, and one is ready. -/
theorem loaded_anew_is_told : ∃ w : World,
    ({} : Setting).world.after? loadedAnew = some w ∧ w.Settled ∧
      w.signals.head? = some .backendUp ∧ ∃ r n, w.state.phase = .ready r n := by
  have seen : (({} : Setting).world.after? loadedAnew).map (fun w => (w.settled, w.state.phase)) =
      some (true, .ready 1 1) := rfl
  have timely : ({} : Setting).world.Throughout (fun _ v v' => ¬ v.Overtakes v') loadedAnew := by
    decide +kernel
  have undropped : ({} : Setting).world.Throughout (fun m v _ => m.dropped? v = none)
      loadedAnew := by
    decide +kernel
  obtain ⟨w, run, seen⟩ := Option.map_eq_some_iff.1 seen
  simp only [Prod.mk.injEq] at seen
  obtain ⟨settled, ready⟩ := seen
  have settled := settled_of settled
  obtain ⟨told, there⟩ := last_signal_tells_phase run
  have last := told timely ⟨1, 1, ready⟩
  exact ⟨w, run, settled, last, there undropped settled last⟩

/-- A tunnel takes a second to stop. -/
def Setting.slowStop : Setting where
  scripts := { stop := { entries := [{ delay := 1000, answer := () }], usual := () } }

/-- While its tunnel stops, another backend comes up. -/
def overtaken : List Move :=
  firstLoad ++ [.ask .close, .turn 3, .turn 1, .ask .load, .turn 4, .turn 5, .turn 4, .turn 4,
    .turn 6, .turn 6, .build, .turn 6, .turn 6, .time 1000, .turn 3]

/-- What the host has heard last is that a backend is down, but one is ready. -/
theorem down_overtaken_by_up : ∃ w : World,
    Setting.slowStop.world.after? overtaken = some w ∧ w.Settled ∧
      w.state.phase = .ready 1 1 ∧ w.signals.head? = some .backendDown := by
  have seen : (Setting.slowStop.world.after? overtaken).map (fun w => (w.settled, w.state.phase,
      w.signals.head?)) = some (true, .ready 1 1, some .backendDown) := rfl
  obtain ⟨w, run, seen⟩ := Option.map_eq_some_iff.1 seen
  simp only [Prod.mk.injEq] at seen
  obtain ⟨settled, ready, last⟩ := seen
  exact ⟨w, run, settled_of settled, ready, last⟩

end TunnelKeeper.Coordinator
