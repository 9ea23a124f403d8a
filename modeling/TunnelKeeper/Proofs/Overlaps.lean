import TunnelKeeper.Proofs.Loads
import TunnelKeeper.Proofs.Setups
import TunnelKeeper.Proofs.Signals
import TunnelKeeper.Proofs.Voices

/-!
Tunnels side by side. At most one tunnel that has started has not been told to stop. Still, one may
be called to start while another is there: setup looks at its generation when a certificate has been
issued and when it has started a tunnel, but at no point in between, and a backend that is taken
away is gone before its tunnel has stopped.
-/

namespace TunnelKeeper.Coordinator

/-! ### Calls to start a tunnel -/

/-- The tunnel that is called to start. -/
def Event.start? : Event → Option TunnelId
  | startTunnel n => some n
  | _ => none

def Outline.starts (c : Outline) : List TunnelId := c.events.filterMap Event.start?

/-- The calls to start a tunnel so far, the latest first. -/
def World.starts (w : World) : List TunnelId := (w.trace.map Prod.snd).filterMap Event.start?

lemma World.outline_starts (w : World) : w.outline.starts = w.starts := by
  unfold Outline.starts starts outline
  rw [List.filterMap_filter]
  congr 1
  funext e
  cases e <;> rfl

/-- A setup with a TLS context calls the tunnel to start that it has just made. -/
lemma Deed.starts_cases {t : TaskId} {o : Owner} {c d : Outline} {x y : Job}
    (deed : Deed t o c x d y) : d.starts = c.starts ∨
      (∃ p, x = .setup p ∧ p.step = .build (.ok ())) ∧
        d.starts = c.tunnels.length :: c.starts := by
  unfold Outline.starts
  rcases deed.events_cases with same | ⟨e, added, voice⟩
  · exact .inl (by rw [same])
  · rw [added, List.filterMap_cons]
    cases e with
    | startTunnel n =>
      obtain ⟨rfl, made⟩ := voice
      exact .inr ⟨made, rfl⟩
    | _ => exact .inl rfl

lemma Move.starts_cases {m : Move} {w w' : World} (move : m.outcome? w = some w') :
    w'.starts = w.starts ∨ ∃ t p, m = .turn t ∧ w.schedule.point? t = some (.setup p) ∧
      w'.starts = w.tunnels.length :: w.starts := by
  rw [← w'.outline_starts, ← w.outline_starts]
  rcases Move.cases move with ⟨t, task, d, y, rfl, here, turned, ending⟩ | ⟨-, happened⟩
  · have after : w'.outline.starts = d.starts := congrArg (List.filterMap Event.start?) ending.events
    rw [after]
    cases turned with
    | once deed =>
      refine deed.starts_cases.imp_right ?_
      rintro ⟨⟨p, job, -⟩, added⟩
      exact ⟨t, p, rfl, Task.eq_setup_of_job job ▸ here, added⟩
    | andLost attempt deed =>
      refine .inl (deed.starts_cases.resolve_right ?_)
      rintro ⟨⟨p, job, -⟩, -⟩
      cases attempt.symm.trans job
  · exact .inl (congrArg (List.filterMap Event.start?) happened.events)

/-! ### What has become of the tunnels that have started -/

/-- A tunnel that has started is ready, or it is on its way out. -/
lemma Outline.Owns.begun_cases {c : Outline} (h : c.Owns) {n : TunnelId}
    (begun : c.begun n = true) : stageOf c.tunnels n = some .stopped ∨
      stageOf c.tunnels n = some .stopping ∨ ∃ r, c.state.phase = .ready r n := by
  obtain ⟨stage, there, begun⟩ := (Option.any_eq_true ..).1 begun
  rw [there]
  cases stage with
  | created => cases begun
  | running => exact .inr (.inr (h.running n there))
  | stopping => exact .inr (.inl rfl)
  | stopped => exact .inl rfl

lemma World.begun_of_starts {s : Setting} {w : World} {moves : List Move} {n : TunnelId}
    (run : s.world.after? moves = some w)
    (started : s.world.Sometime (fun m v _ => m.Starts n v) moves) : w.outline.begun n = true :=
  (World.sometime_iff (Q := fun v => v.outline.begun n = true)
    (I := fun v => Background v.outline ∧ v.outline.Owns) (P := fun m v _ => m.Starts n v)
    (fun move h => ⟨h.1.step (Move.step move), h.2.step h.1 (Move.step move)⟩)
    (fun move h => Move.begun h.2 move n) run ⟨s.background, s.owns⟩).2 (.inr started)

lemma Loads.past_of_ready {c : Outline} (h : Loads c) {t : TaskId} {p : SetupPoint} {r : CycleId}
    {n : TunnelId} (at_it : c.job t = .setup p) (ready : c.state.phase = .ready r n) :
    p.generation < c.state.generation := by
  refine h.carried.lt_of_late (congrArg Job.duty at_it) fun waits => ?_
  obtain ⟨r', now⟩ := state_of_dutyOf_setup waits
  cases (congrArg BackendState.phase now).symm.trans ready

/-- **No two tunnels run.** Of the tunnels that have started, at most one has not been told to stop.
And when a tunnel is called to start, every one that has started before it has stopped, unless it is
in the middle of that, or it is ready and the call comes from a setup of an earlier generation. -/
theorem no_two_tunnels_run {s : Setting} {moves : List Move} {w : World}
    (run : s.world.after? moves = some w) :
    (∀ n k, s.world.Sometime (fun m v _ => m.Starts n v) moves → w.stops n = 0 →
      s.world.Sometime (fun m v _ => m.Starts k v) moves → w.stops k = 0 → n = k) ∧
    ∀ (m : Move) w', m.outcome? w = some w' → w'.starts = w.starts ∨
      ∃ t p, m = .turn t ∧ w.schedule.point? t = some (.setup p) ∧
        w'.starts = w.tunnels.length :: w.starts ∧
        ∀ k, s.world.Sometime (fun m v _ => m.Starts k v) moves →
          stageOf w.tunnels k = some .stopped ∨ stageOf w.tunnels k = some .stopping ∨
            p.generation < w.state.generation ∧ ∃ r, w.state.phase = .ready r k := by
  have owns : w.outline.Owns := Reaches.owns ⟨moves, run⟩
  have loads : Loads w.outline := Reaches.loads ⟨moves, run⟩
  have begun {n : TunnelId} (started : s.world.Sometime (fun m v _ => m.Starts n v) moves) :
      stageOf w.tunnels n = some .stopped ∨ stageOf w.tunnels n = some .stopping ∨
        ∃ r, w.state.phase = .ready r n :=
    owns.begun_cases (World.begun_of_starts run started)
  refine ⟨fun n k started untold started' untold' => ?_, fun m w' move => ?_⟩
  · have ready {n : TunnelId} (started : s.world.Sometime (fun m v _ => m.Starts n v) moves)
        (untold : w.stops n = 0) : ∃ r, w.state.phase = .ready r n := by
      have told : w.stops n = _ := (w.outline_stops n).symm.trans (owns.told n)
      rw [untold] at told
      rcases begun started with stage | stage | ready
      · rw [show w.outline.tunnels = w.tunnels from rfl, stage] at told
        cases told
      · rw [show w.outline.tunnels = w.tunnels from rfl, stage] at told
        cases told
      · exact ready
    obtain ⟨r, phase⟩ := ready started untold
    obtain ⟨r', phase'⟩ := ready started' untold'
    cases phase.symm.trans phase'
    rfl
  · refine (Move.starts_cases move).imp_right ?_
    rintro ⟨t, p, rfl, here, called⟩
    refine ⟨t, p, rfl, here, called, fun k started => ?_⟩
    refine (begun started).imp_right (.imp_right fun ⟨r, ready⟩ => ⟨?_, r, ready⟩)
    exact loads.past_of_ready (World.outline_job here) ready

/-- When the tunnel of the second backend is called to start, that of the first one has stopped. -/
theorem loadedAnew_starts_second_tunnel : ∃ w w' : World,
    ({} : Setting).world.after? loadedAnew.dropLast.dropLast = some w ∧
      (Move.turn 6).outcome? w = some w' ∧ w'.starts = 1 :: w.starts ∧
      stageOf w.tunnels 0 = some .stopped := by
  have seen : (({} : Setting).world.after? loadedAnew.dropLast.dropLast).bind (fun w =>
      ((Move.turn 6).outcome? w).map fun w' => (w.starts, w'.starts, w.tunnels.length,
        w.state.phase, w.outline.begun 0, w.tunnels.all (·.stage ≠ .stopping))) =
      some ([0], [1, 0], 1, .loading 1, true, true) := rfl
  obtain ⟨w, run, seen⟩ := Option.bind_eq_some_iff.1 seen
  obtain ⟨w', turn, seen⟩ := Option.map_eq_some_iff.1 seen
  simp only [Prod.mk.injEq] at seen
  obtain ⟨before, after, made, loading, begun, still⟩ := seen
  rcases (no_two_tunnels_run run).2 _ w' turn with same | ⟨t, p, -, -, called, others⟩
  · cases after.symm.trans (same.trans before)
  · refine ⟨w, w', run, turn, made ▸ called, ?_⟩
    rcases others 0 (World.starts_of_begun run begun) with stopped | stopping | ⟨-, r, ready⟩
    · exact stopped
    · obtain ⟨tunnel, there, stopping⟩ := Option.map_eq_some_iff.1 stopping
      have moving := List.all_eq_true.1 still tunnel (List.mem_of_getElem? there)
      exact absurd stopping (of_decide_eq_true moving)
    · cases loading.symm.trans ready

/-- Hardening takes a second, the first time. -/
def Setting.slowHarden : Setting where
  scripts := { harden :=
    { entries := [{ delay := 1000, answer := .ok () }, { answer := .ok () }], usual := .ok () } }

/-- A load is closed while its certificate files are hardened, and another one brings a backend up
meanwhile. -/
def overlapping : List Move :=
  [.ask .load, .turn 0, .turn 1, .turn 0, .turn 0, .turn 2, .turn 2, .ask .close, .turn 3, .turn 1,
    .ask .load, .turn 4, .turn 5, .turn 4, .turn 4, .turn 6, .turn 6, .build, .turn 6, .turn 6,
    .time 1000, .turn 2, .build]

/-- Then the setup of the first load calls its tunnel to start while that of the backend runs. -/
theorem superseded_setup_starts_tunnel : ∃ w w' : World,
    Setting.slowHarden.world.after? overlapping = some w ∧
      (Move.turn 2).outcome? w = some w' ∧ w'.starts = [1, 0] ∧
      Setting.slowHarden.world.Sometime (fun m v _ => m.Starts 0 v) overlapping ∧
      stageOf w.tunnels 0 = some .running := by
  have seen : (Setting.slowHarden.world.after? overlapping).bind (fun w =>
      ((Move.turn 2).outcome? w).map fun w' =>
        (w'.starts, stageOf w.tunnels 0)) = some ([1, 0], some .running) := rfl
  obtain ⟨w, run, seen⟩ := Option.bind_eq_some_iff.1 seen
  obtain ⟨w', turn, seen⟩ := Option.map_eq_some_iff.1 seen
  simp only [Prod.mk.injEq] at seen
  obtain ⟨called, running⟩ := seen
  refine ⟨w, w', run, turn, called, World.starts_of_begun run ?_, running⟩
  unfold Outline.begun
  rw [show w.outline.tunnels = w.tunnels from rfl, running]
  rfl

end TunnelKeeper.Coordinator
