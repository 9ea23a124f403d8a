import TunnelKeeper.Proofs.Connections

/-!
Where a tunnel comes from. Setup makes it for the registration that it works for, and the state
gets it from that setup, so the backend that is ready has a tunnel that was made for its own
registration.
-/

namespace TunnelKeeper.Coordinator

/-! ### Setups and the state -/

/-- A setup works for the registration that is loaded, or its generation is past. -/
def SetupPoint.Fits (p : SetupPoint) (s : State) : Prop :=
  p.generation ≤ s.generation ∧
    (p.generation = s.generation → s.phase.registration? = some p.cycle)

lemma SetupPoint.Fits.shift {p : SetupPoint} {s s' : State} (fits : p.Fits s)
    (shift : s.Shift s') : p.Fits s' := by
  obtain ⟨le, loaded⟩ := fits
  cases shift with
  | same => exact ⟨le, loaded⟩
  | begin | take =>
    exact ⟨Nat.le_succ_of_le le, fun current => absurd le (current ▸ Nat.not_succ_le_self _)⟩
  | fail now | registered _ now =>
    refine ⟨le, fun current => ?_⟩
    cases (congrArg Phase.registration? now).symm.trans (loaded current)
  | stalled r now | up r _ now =>
    exact ⟨le, fun current => (congrArg Phase.registration? now).symm.trans (loaded current)⟩

lemma Deed.fits {t : TaskId} {o : Owner} {c d : Outline} {x : Job} {p : SetupPoint}
    (deed : Deed t o c x d (.setup p)) : ∃ q, x = .setup q ∧ q.generation = p.generation ∧
      q.cycle = p.cycle := by
  generalize after : Job.setup p = y at deed
  cases deed with
  | setupOn | certified | tunnelMade | discard =>
    cases after
    exact ⟨_, rfl, rfl, rfl⟩
  | _ => cases after

/-- All setups work for the registration that is loaded, or for earlier ones. -/
def Outline.Setups (c : Outline) : Prop := ∀ t p, c.job t = .setup p → p.Fits c.state

/-- A setup has been there before, unless it has just been left to itself or it is its turn. -/
lemma Move.setup_before {m : Move} {w w' : World} {u : TaskId} {p : SetupPoint}
    (back : Background w.outline) (move : m.outcome? w = some w')
    (after : w'.outline.job u = .setup p) :
    w.outline.job u = .setup p ∨ (∃ t, m = .turn t ∧ w.HandsOver t u p w') ∨
      m = .turn u ∧ ∃ q d, w.outline.job u = .setup q ∧
        Deed u .caller w.outline (.setup q) d (.setup p) := by
  by_cases mine : m = .turn u
  · subst mine
    obtain ⟨task, d, y, here, turned, ending⟩ := World.turn_cases move
    obtain rfl : y = .setup p := ending.job.symm.trans after
    cases turned with
    | once deed =>
      obtain ⟨q, job, -⟩ := deed.fits
      rw [job, Task.eq_setup_of_job job] at deed
      exact .inr (.inr ⟨rfl, q, d, (World.outline_job here).trans job, deed⟩)
  · rcases Move.job_cases back move mine with
      same | rest | ⟨operation, asked⟩ | ⟨t, q, turn, handed, setup⟩
    · exact .inl (same.symm.trans after)
    · cases rest.symm.trans after
    · have after := asked.symm.trans after
      cases operation <;> cases after
    · cases setup.symm.trans after
      exact .inr (.inl ⟨t, turn, handed⟩)

lemma Outline.Setups.move {m : Move} {w w' : World} (h : w.outline.Setups)
    (back : Background w.outline) (move : m.outcome? w = some w') : w'.outline.Setups := by
  intro u p after
  rcases Move.setup_before back move after with before | ⟨t, -, handed⟩ | ⟨-, q, d, before, deed⟩
  · exact (h u p before).shift (Move.shift move)
  · have state : w'.outline.state = ⟨p.generation, .loading p.cycle⟩ := handed.loading
    unfold SetupPoint.Fits
    rw [state]
    exact ⟨Nat.le_refl _, fun _ => rfl⟩
  · obtain ⟨q', same, generation, cycle⟩ := deed.fits
    cases same
    have fits := (h u q before).shift (Move.shift move)
    unfold SetupPoint.Fits at fits ⊢
    rwa [generation, cycle] at fits

/-! ### Tunnels and their registrations -/

/-- In this move, setup of a registration makes a tunnel. -/
def Move.Makes (r : CycleId) (n : TunnelId) (m : Move) (w : World) : Prop :=
  ∃ t p, m = .turn t ∧ w.schedule.point? t = some (.setup p) ∧ p.step = .build (.ok ()) ∧
    p.cycle = r ∧ w.tunnels.length = n

/-- Setup of a registration waits for the tunnel to start, or the state has both. -/
def World.Has (r : CycleId) (n : TunnelId) (w : World) : Prop :=
  (∃ t p call, w.outline.job t = .setup p ∧ p.step = .startTunnel n call ∧ p.cycle = r) ∨
    w.state.phase = .ready r n

lemma Deed.starting_cases {t : TaskId} {o : Owner} {c d : Outline} {x : Job} {p : SetupPoint}
    {n : TunnelId} {call : Call (Except TransportError Unit)}
    (deed : Deed t o c x d (.setup p)) (starting : p.step = .startTunnel n call) :
    ∃ q, x = .setup q ∧ q.step = .build (.ok ()) ∧ q.cycle = p.cycle ∧ c.tunnels.length = n := by
  generalize after : Job.setup p = y at deed
  cases deed with
  | setupOn _ _ still | certified _ _ still =>
    cases after
    rw [SetupPoint.tunnel?, starting] at still
    cases still
  | tunnelMade _ _ _ _ built =>
    cases after
    cases starting
    exact ⟨_, rfl, built, rfl, rfl⟩
  | discard =>
    cases after
    cases starting
  | _ => cases after

lemma Turned.ready_from {t : TaskId} {o : Owner} {c d : Outline} {x y : Job} {r : CycleId}
    {n : TunnelId} (turned : Turned t o c x d y) (ready : d.state.phase = .ready r n) :
    c.state.phase = .ready r n ∨ ∃ p call, x = .setup p ∧ p.step = .startTunnel n call ∧
      c.state = ⟨p.generation, .loading r⟩ := by
  cases turned with
  | once deed =>
    rcases deed.ready_cases (BackendState.eq_mk_iff.2 ⟨rfl, ready⟩) with
      same | ⟨p, call, rfl, starting, own, loading, -⟩
    · exact .inl (same ▸ ready)
    · exact .inr ⟨p, call, rfl, starting, own ▸ loading⟩
  | andLost at_it deed =>
    rw [at_it] at deed
    exact .inl (deed.attempt_keeps.1 ▸ ready)

lemma World.Has.before {r : CycleId} {n : TunnelId} {m : Move} {w w' : World}
    (back : Background w.outline) (setups : w.outline.Setups) (move : m.outcome? w = some w')
    (h : w'.Has r n) : w.Has r n ∨ m.Makes r n w := by
  rcases h with ⟨u, p, call, after, starting, rfl⟩ | ready
  · rcases Move.setup_before back move after with before | ⟨t, -, handed⟩ | ⟨rfl, q, d, before, deed⟩
    · exact .inl (.inl ⟨u, p, call, before, starting, rfl⟩)
    · cases handed.start.symm.trans starting
    · obtain ⟨q', same, built, cycle, length⟩ := deed.starting_cases starting
      cases same
      obtain ⟨task, -, -, here, -⟩ := World.turn_cases move
      have job := (World.outline_job here).symm.trans before
      exact .inr ⟨u, q, rfl, Task.eq_setup_of_job job ▸ here, built, cycle, length⟩
  · rcases Move.cases move with ⟨t, task, d, y, rfl, here, turned, ending⟩ | ⟨-, happened⟩
    · have ready : d.state.phase = .ready r n := by
        rw [← ending.state]
        exact ready
      rcases turned.ready_from ready with before | ⟨p, call, job, starting, loading⟩
      · exact .inl (.inr before)
      · have at_it := (World.outline_job here).trans job
        have loaded := (setups t p at_it).2 (congrArg BackendState.generation loading).symm
        rw [loading] at loaded
        exact .inl (.inl ⟨t, p, call, at_it, starting, (Option.some.inj loaded).symm⟩)
    · exact .inl (.inr ((congrArg _ happened.same_slots.2.2).symm.trans ready))

/-- The tunnel of a backend that is ready was made for its registration. -/
theorem World.made_of_ready {s : Setting} {w : World} {moves : List Move} {r : CycleId}
    {n : TunnelId} (run : s.world.after? moves = some w) (ready : w.state.phase = .ready r n) :
    s.world.Sometime (fun m v _ => m.Makes r n v) moves := by
  refine World.sometime_of (I := fun v => Background v.outline ∧ v.outline.Setups)
    (R := fun v => v.Has r n)
    (fun move h => ⟨h.1.step (Move.step move), h.2.move h.1 move⟩)
    (fun move h now => now.before h.1 h.2 move) run ⟨s.background, nofun⟩ ?_ (.inr ready)
  rintro (⟨t, p, call, at_it, -⟩ | ready)
  · cases at_it
  · cases ready

/-- A tunnel that has started did so in some move. -/
theorem World.starts_of_begun {s : Setting} {w : World} {moves : List Move} {n : TunnelId}
    (run : s.world.after? moves = some w) (begun : w.outline.begun n = true) :
    s.world.Sometime (fun m v _ => m.Starts n v) moves := by
  refine World.sometime_of (I := fun v => Background v.outline ∧ v.outline.Owns)
    (R := fun v => v.outline.begun n = true)
    (fun move h => ⟨h.1.step (Move.step move), h.2.step h.1 (Move.step move)⟩)
    (fun move h now => (Move.begun h.2 move n).1 now) run ⟨s.background, s.owns⟩ nofun begun

end TunnelKeeper.Coordinator
