import TunnelKeeper.Proofs.Background
import TunnelKeeper.Proofs.Runs

/-!
Who owns a tunnel. A tunnel that is about to start belongs to the setup that made it, one that is
running to the state, and one that has been told to stop to whoever told it. Each is told at most
once.
-/

namespace TunnelKeeper.Coordinator

/-! ### Stages -/

/-- How far a tunnel has come, if it has been made. -/
def stageOf (tunnels : List Tunnel) (n : TunnelId) : Option TunnelStage :=
  tunnels[n]?.map Tunnel.stage

/-- The tunnel has been told to stop. -/
def TunnelStage.told : TunnelStage → Bool
  | created => false
  | running => false
  | stopping => true
  | stopped => true

section Stages

variable {tunnels : List Tunnel} {n : TunnelId}

lemma stageOf_setConnected (connected : Bool) :
    stageOf (tunnels.modify n fun tunnel => { tunnel with connected := connected }) =
      stageOf tunnels := by
  funext m
  unfold stageOf
  rw [List.getElem?_modify]
  cases tunnels[m]? with
  | none => rfl
  | some tunnel =>
    by_cases same : n = m <;> simp [same]

lemma stageOf_setStage {before : TunnelStage} (there : stageOf tunnels n = some before)
    (stage : TunnelStage) :
    stageOf (tunnels.modify n fun tunnel => { tunnel with stage := stage }) =
      Function.update (stageOf tunnels) n (some stage) := by
  funext m
  by_cases same : m = n
  · rw [same, Function.update_self]
    obtain ⟨tunnel, found, -⟩ := Option.map_eq_some_iff.1 there
    simp [stageOf, found]
  · rw [Function.update_of_ne same]
    unfold stageOf
    rw [List.getElem?_modify]
    cases tunnels[m]? with
    | none => rfl
    | some tunnel => simp [Ne.symm same]

lemma stageOf_discard {before : TunnelStage} (there : stageOf tunnels n = some before) :
    stageOf ((tunnels.modify n fun tunnel => { tunnel with stage := .running }).modify n
      fun tunnel => { tunnel with stage := .stopping }) =
        Function.update (stageOf tunnels) n (some .stopping) := by
  have running := stageOf_setStage there .running
  have there : stageOf (tunnels.modify n fun tunnel => { tunnel with stage := .running }) n =
      some .running := (congrFun running n).trans (Function.update_self ..)
  rw [stageOf_setStage there, running, Function.update_idem]

lemma stageOf_length : stageOf tunnels tunnels.length = none := by
  unfold stageOf
  rw [List.getElem?_eq_none (Nat.le_refl _)]
  rfl

lemma stageOf_append (params : TunnelParams) :
    stageOf (tunnels ++ [{ params := params }]) =
      Function.update (stageOf tunnels) tunnels.length (some .created) := by
  funext m
  by_cases same : m = tunnels.length
  · rw [same, Function.update_self]
    unfold stageOf
    rw [List.getElem?_concat_length]
    rfl
  · rw [Function.update_of_ne same]
    unfold stageOf
    rw [List.getElem?_append]
    split
    · rfl
    · next late =>
      have later : tunnels.length < m := Nat.lt_of_le_of_ne (Nat.le_of_not_lt late) (Ne.symm same)
      rw [List.getElem?_eq_none (Nat.le_of_lt later), List.getElem?_eq_none]
      exact Nat.sub_pos_of_lt later

end Stages

/-! ### Ownership -/

namespace Job

/-- The tunnel that a job waits for to start. -/
def starts : Job → Option TunnelId
  | setup ⟨_, _, .startTunnel n _⟩ => some n
  | _ => none

/-- The tunnel that a job waits for to stop. -/
def stops : Job → Option TunnelId
  | setup ⟨_, _, .discard n _⟩ => some n
  | teardown p => some p.tunnel
  | _ => none

lemma no_tunnel {p : SetupPoint} (early : p.tunnel? = none) :
    (setup p).starts = none ∧ (setup p).stops = none := by
  obtain ⟨g, r, step⟩ := p
  cases step with
  | startTunnel | discard => cases early
  | _ => exact ⟨rfl, rfl⟩

end Job

/-- Every tunnel has one owner: the setup that starts it, the state while it is running, and then
whoever stops it. It is told to stop when the last one takes it over. -/
structure Owned (phase : Phase CycleId TunnelId) (stage : TunnelId → Option TunnelStage)
    (job : TaskId → Job) (stops : TunnelId → Nat) : Prop where
  ready : ∀ r n, phase = .ready r n → stage n = some .running
  running : ∀ n, stage n = some .running → ∃ r, phase = .ready r n
  starting : ∀ t n, (job t).starts = some n → stage n = some .created
  alone : ∀ t u n, (job t).starts = some n → (job u).starts = some n → t = u
  stopping : ∀ t n, (job t).stops = some n → ∃ s, stage n = some s ∧ s.told
  told : ∀ n, stops n = if (stage n).any TunnelStage.told then 1 else 0

namespace Owned

variable {phase phase' : Phase CycleId TunnelId} {stage : TunnelId → Option TunnelStage}
  {job : TaskId → Job} {stops : TunnelId → Nat} {t : TaskId} {x y : Job} {n : TunnelId}

/-- A task goes on with its tunnel, or it leaves it alone. -/
lemma pass (h : Owned phase stage job stops) (at_it : job t = x)
    (ready : ∀ r n, phase' = .ready r n ↔ phase = .ready r n)
    (starts : ∀ n, y.starts = some n → x.starts = some n)
    (stops' : ∀ n, y.stops = some n → x.stops = some n) :
    Owned phase' stage (Function.update job t y) stops := by
  have startsBefore (u : TaskId) (m : TunnelId)
      (h' : (Function.update job t y u).starts = some m) : (job u).starts = some m := by
    by_cases same : u = t
    · rw [same, Function.update_self] at h'
      rw [same, at_it]
      exact starts m h'
    · rwa [Function.update_of_ne same] at h'
  refine ⟨fun r m now => h.ready r m ((ready r m).1 now), fun m running => ?_,
    fun u m h' => h.starting u m (startsBefore u m h'),
    fun u v m h' h'' => h.alone u v m (startsBefore u m h') (startsBefore v m h''),
    fun u m h' => ?_, h.told⟩
  · obtain ⟨r, now⟩ := h.running m running
    exact ⟨r, (ready r m).2 now⟩
  · by_cases same : u = t
    · rw [same, Function.update_self] at h'
      exact h.stopping t m (at_it ▸ stops' m h')
    · exact h.stopping u m (by rwa [Function.update_of_ne same] at h')

lemma alone_of_none (h : Owned phase stage job stops) (starts : y.starts = none) (u v : TaskId)
    (m : TunnelId) (h' : (Function.update job t y u).starts = some m)
    (h'' : (Function.update job t y v).starts = some m) : u = v := by
  rw [Function.update_apply] at h' h''
  split at h' <;> split at h''
  · next u_eq v_eq => rw [u_eq, v_eq]
  · cases starts.symm.trans h'
  · cases starts.symm.trans h''
  · exact h.alone u v m h' h''

lemma told_of_same (h : Owned phase stage job stops) {s : TunnelStage}
    (same : (stage n).any TunnelStage.told = s.told) (m : TunnelId) :
    stops m = if (Function.update stage n (some s) m).any TunnelStage.told then 1 else 0 := by
  rw [h.told m]
  by_cases here : m = n
  · rw [here, Function.update_self, same]
    rfl
  · rw [Function.update_of_ne here]

/-- A tunnel has been made, and the task waits for it to start. -/
lemma made (h : Owned phase stage job stops) (new : stage n = none) (starts : y.starts = some n)
    (stops' : y.stops = none) :
    Owned phase (Function.update stage n (some .created)) (Function.update job t y) stops := by
  have other {m : TunnelId} {s : TunnelStage} (there : stage m = some s) :
      Function.update stage n (some .created) m = some s := by
    rw [Function.update_of_ne, there]
    rintro rfl
    cases new.symm.trans there
  have new_of {u : TaskId} (h' : (job u).starts = some n) : False := by
    cases new.symm.trans (h.starting u n h')
  refine ⟨fun r m now => other (h.ready r m now), fun m running => ?_, fun u m h' => ?_,
    fun u v m h' h'' => ?_, fun u m h' => ?_, h.told_of_same (by rw [new]; rfl)⟩
  · rw [Function.update_apply] at running
    split at running
    · cases running
    · exact h.running m running
  · rw [Function.update_apply] at h'
    split at h'
    · cases starts.symm.trans h'
      exact Function.update_self ..
    · exact other (h.starting u m h')
  · rw [Function.update_apply] at h' h''
    split at h' <;> split at h''
    · next u_eq v_eq => rw [u_eq, v_eq]
    · cases starts.symm.trans h'
      exact (new_of h'').elim
    · cases starts.symm.trans h''
      exact (new_of h').elim
    · exact h.alone u v m h' h''
  · rw [Function.update_apply] at h'
    split at h'
    · cases stops'.symm.trans h'
    · obtain ⟨s, there, told⟩ := h.stopping u m h'
      exact ⟨s, other there, told⟩

/-- A tunnel has started, and the state owns it from now on. -/
lemma up (h : Owned phase stage job stops) (at_it : job t = x) (starts : x.starts = some n)
    (unready : ∀ r m, phase ≠ .ready r m) (r : CycleId) (starts' : y.starts = none)
    (stops' : y.stops = none) :
    Owned (.ready r n) (Function.update stage n (some .running)) (Function.update job t y)
      stops := by
  have created : stage n = some .created := h.starting t n (at_it ▸ starts)
  refine ⟨fun r m now => ?_, fun m running => ?_, fun u m h' => ?_, h.alone_of_none starts',
    fun u m h' => ?_, h.told_of_same (by rw [created]; rfl)⟩
  · cases now
    exact Function.update_self ..
  · rw [Function.update_apply] at running
    split at running
    · next same => exact ⟨r, same ▸ rfl⟩
    · obtain ⟨r, now⟩ := h.running m running
      exact absurd now (unready r m)
  · rw [Function.update_apply] at h'
    split at h'
    · cases starts'.symm.trans h'
    · next other =>
      rw [Function.update_of_ne, h.starting u m h']
      rintro rfl
      exact other (h.alone u t m h' (at_it ▸ starts))
  · rw [Function.update_apply] at h'
    split at h'
    · cases stops'.symm.trans h'
    · obtain ⟨s, there, told⟩ := h.stopping u m h'
      refine ⟨s, ?_, told⟩
      rw [Function.update_of_ne, there]
      rintro rfl
      cases created.symm.trans there
      cases told

lemma stop (h : Owned phase stage job stops) {s : TunnelStage} (there : stage n = some s)
    (untold : s.told = false) (starts : y.starts = none) (stops' : y.stops = some n)
    (alone : ∀ u, u ≠ t → (job u).starts ≠ some n)
    (ready : ∀ r m, phase' = .ready r m → m ≠ n ∧ phase = .ready r m)
    (running : ∀ r m, phase = .ready r m → m ≠ n → phase' = .ready r m) :
    Owned phase' (Function.update stage n (some .stopping)) (Function.update job t y)
      (Function.update stops n (stops n + 1)) := by
  refine ⟨fun r m now => ?_, fun m running' => ?_, fun u m h' => ?_, h.alone_of_none starts,
    fun u m h' => ?_, fun m => ?_⟩
  · obtain ⟨other, before⟩ := ready r m now
    rw [Function.update_of_ne other, h.ready r m before]
  · rw [Function.update_apply] at running'
    split at running'
    · cases running'
    · next other =>
      obtain ⟨r, now⟩ := h.running m running'
      exact ⟨r, running r m now other⟩
  · rw [Function.update_apply] at h'
    split at h'
    · cases starts.symm.trans h'
    · next other =>
      rw [Function.update_of_ne, h.starting u m h']
      rintro rfl
      exact alone u other h'
  · rw [Function.update_apply]
    split
    · exact ⟨_, rfl, rfl⟩
    · next other =>
      rw [Function.update_apply] at h'
      split at h'
      · exact absurd (Option.some.inj (h'.symm.trans stops')) other
      · exact h.stopping u m h'
  · rw [Function.update_apply, Function.update_apply]
    split
    · rw [h.told n, there, Option.any_some, untold]
      rfl
    · exact h.told m

lemma stopped (h : Owned phase stage job stops) (at_it : job t = x) (stops' : x.stops = some n)
    (starts : y.starts = none) (stops'' : y.stops = none) :
    Owned phase (Function.update stage n (some .stopped)) (Function.update job t y) stops := by
  obtain ⟨s, there, told⟩ := h.stopping t n (at_it ▸ stops')
  refine ⟨fun r m now => ?_, fun m running => ?_, fun u m h' => ?_, h.alone_of_none starts,
    fun u m h' => ?_, h.told_of_same (by rw [there, Option.any_some, told]; rfl)⟩
  · rw [Function.update_of_ne, h.ready r m now]
    rintro rfl
    cases there.symm.trans (h.ready r m now)
    cases told
  · rw [Function.update_apply] at running
    split at running
    · cases running
    · exact h.running m running
  · rw [Function.update_apply] at h'
    split at h'
    · cases starts.symm.trans h'
    · rw [Function.update_of_ne, h.starting u m h']
      rintro rfl
      cases there.symm.trans (h.starting u m h')
      cases told
  · rw [Function.update_apply] at h'
    split at h'
    · cases stops''.symm.trans h'
    · rw [Function.update_apply]
      split
      · exact ⟨_, rfl, rfl⟩
      · exact h.stopping u m h'

end Owned

/-! ### The owners in a run -/

/-- The tunnel is told to stop. -/
def Event.isStop (n : TunnelId) : Event → Bool
  | stopTunnel m => m = n
  | _ => false

namespace Outline

variable (c : Outline)

/-- How often a tunnel has been told to stop. -/
def stops (n : TunnelId) : Nat := c.events.countP (Event.isStop n)

/-- Every tunnel has one owner. -/
def Owns : Prop := Owned c.state.phase (stageOf c.tunnels) c.job c.stops

lemma stageOf_connect (n : TunnelId) (lasting : Bool) :
    stageOf (c.connect n lasting).tunnels = stageOf c.tunnels := by
  cases lasting with
  | false => rfl
  | true => exact stageOf_setConnected _

lemma stops_hear {e : Event} (other : ∀ n, e.isStop n = false) : (c.hear e).stops = c.stops := by
  funext n
  exact List.countP_cons_of_neg (by rw [other n]; nofun)

lemma stops_hearIf (b : Bool) {e : Event} (other : ∀ n, e.isStop n = false) :
    (c.hearIf b e).stops = c.stops := by
  cases b with
  | false => rfl
  | true => exact c.stops_hear other

lemma stops_hear_stop (n : TunnelId) :
    (c.hear (.stopTunnel n)).stops = Function.update c.stops n (c.stops n + 1) := by
  funext m
  rw [Function.update_apply]
  split
  · next same =>
    rw [same]
    exact List.countP_cons_of_pos (by simp [Event.isStop])
  · next other => exact List.countP_cons_of_neg (by simp [Event.isStop, Ne.symm other])

end Outline

lemma Owned.owns {phase : Phase CycleId TunnelId} {stage : TunnelId → Option TunnelStage}
    {job : TaskId → Job} {stops : TunnelId → Nat} {d : Outline} (h : Owned phase stage job stops)
    (samePhase : d.state.phase = phase) (sameStage : stageOf d.tunnels = stage)
    (sameJob : d.job = job) (sameStops : d.stops = stops) : d.Owns := by
  subst samePhase sameStage sameJob sameStops
  exact h

namespace Outline.Owns

variable {c d : Outline} {t : TaskId} {o : Owner} {x y : Job}

lemma keep (h : c.Owns) (at_it : c.job t = x)
    (ready : ∀ r n, d.state.phase = .ready r n ↔ c.state.phase = .ready r n)
    (stage : stageOf d.tunnels = stageOf c.tunnels) (job : d.job = c.job)
    (stops : d.stops = c.stops) (starts : ∀ n, y.starts = some n → x.starts = some n)
    (stops' : ∀ n, y.stops = some n → x.stops = some n) : (d.pass t y).Owns := by
  have kept := h.pass at_it ready starts stops'
  rwa [← stage, ← job, ← stops] at kept

/-- The phase may change as long as the same tunnel is ready. -/
lemma withPhase (h : c.Owns) {s : State}
    (ready : ∀ r n, s.phase = .ready r n ↔ c.state.phase = .ready r n) :
    ({ c with state := s } : Outline).Owns := by
  have kept := h.pass (t := c.next) rfl ready (fun _ => id) fun _ => id
  exact kept.owns rfl rfl (Function.update_eq_self _ _).symm rfl

lemma spawn (h : c.Owns) (back : Background c) (o : Owner) (starts : y.starts = none)
    (stops : y.stops = none) : (c.spawn o y).Owns := by
  have at_it : c.job c.next = .rest := back.sound.vacant _ (back.sound.fresh _ (Nat.le_refl _))
  have kept := h.keep (d := c) at_it (fun _ _ => .rfl) rfl rfl rfl (y := y)
    (fun n new => nomatch starts.symm.trans new) fun n new => nomatch stops.symm.trans new
  have job : (c.spawn o y).job = (c.pass c.next y).job := back.sound.job_spawn_eq_pass _ _
  unfold Owns
  rw [job]
  exact kept

/-- Between two points of a task, every tunnel has one owner. -/
lemma deed (h : c.Owns) (back : Background c) (own : c.owner t = some o) (at_it : c.job t = x)
    (deed : Deed t o c x d y) : (d.pass t y).Owns := by
  have keep (d : Outline) := h.keep (d := d) (y := y) at_it
  -- The guard that an attempt may leave behind owns no tunnel.
  have ended (c' : Outline) (a : Attempt) (same : c'.toRoster = c.toRoster ∧ c'.state = c.state ∧
      stageOf c'.tunnels = stageOf c.tunnels ∧ c'.stops = c.stops) :
      ((c'.endAttempt t a).pass t .rest).Owns := by
    obtain ⟨roster, state, stage, stops⟩ := same
    have ready (r : CycleId) (n : TunnelId) : c'.state.phase = .ready r n ↔
        c.state.phase = .ready r n := by rw [state]
    rcases c'.endAttempt_cases t a with same | ⟨-, -, spawned⟩
    · rw [same]
      exact h.keep at_it ready stage (congrArg _ roster) stops nofun nofun
    · rw [spawned]
      refine h.keep at_it ready stage ?_ stops nofun nofun
      exact (congrArg (fun r : Roster => (r.spawn _ .rest).job) roster).trans
        (back.sound.job_spawn_rest _)
  have connect (n : TunnelId) (lasting : Bool) : ∃ tunnels,
      c.connect n lasting = { c with tunnels := tunnels } ∧ stageOf tunnels = stageOf c.tunnels :=
    ⟨_, c.connect_eq n lasting, c.stageOf_connect n lasting⟩
  cases deed with
  | rest | stay | release | queue | attemptOn | dropped | loadOn | loadLate | setupLate =>
    exact keep _ (fun _ _ => .rfl) rfl rfl rfl nofun nofun
  | delegate => exact keep _ (fun _ _ => .rfl) rfl (back.sound.job_spawn_rest _) rfl nofun nofun
  | @begin p _ _ idle =>
    have ready (r : CycleId) (n : TunnelId) :
        .registering = Phase.ready r n ↔ c.state.phase = .ready r n := by
      rcases Phase.idle_iff.1 idle with phase | ⟨r', phase⟩ <;> rw [phase] <;> exact ⟨nofun, nofun⟩
    rcases c.begin_cases with ⟨-, same⟩ | ⟨-, spawned⟩
    · rw [same]
      exact keep _ ready rfl rfl (Outline.stops_hear _ fun _ => rfl) nofun nofun
    · rw [spawned]
      exact keep _ ready rfl (back.sound.job_spawn_rest _) (Outline.stops_hear _ fun _ => rfl)
        nofun nofun
  | loadFailed now =>
    exact keep _ (fun _ _ => by rw [now]; exact ⟨nofun, nofun⟩) rfl rfl rfl nofun nofun
  | @registered p r now =>
    have loading := h.withPhase (s := ⟨p.generation, .loading r⟩) fun _ _ => by
      rw [now]
      exact ⟨nofun, nofun⟩
    have back := back.withState (by rw [now]; rfl) ⟨p.generation, .loading r⟩
    have spawned := loading.spawn back .caller (y := .setup ⟨p.generation, r, .start⟩) rfl rfl
    refine spawned.keep (x := .load p) ?_ (fun _ _ => .rfl) rfl rfl rfl nofun nofun
    refine (back.sound.job_spawn ..).trans ?_
    rw [if_neg (Nat.ne_of_lt (back.sound.lt_next own))]
    exact at_it
  | setupOn step early still =>
    obtain ⟨starts, stops⟩ := Job.no_tunnel still
    exact keep _ (fun _ _ => .rfl) rfl rfl rfl (fun n new => nomatch starts.symm.trans new)
      fun n new => nomatch stops.symm.trans new
  | certified step early still =>
    obtain ⟨starts, stops⟩ := Job.no_tunnel still
    exact keep _ (fun _ _ => .rfl) rfl rfl (Outline.stops_hear _ fun _ => rfl)
      (fun n new => nomatch starts.symm.trans new) fun n new => nomatch stops.symm.trans new
  | @stalled p said =>
    have ready (r : CycleId) (n : TunnelId) : (c.state.setStalled p.generation).2.phase =
        .ready r n ↔ c.state.phase = .ready r n := by
      by_cases now : ∃ r, c.state = ⟨p.generation, .loading r⟩
      · obtain ⟨r, now⟩ := now
        rw [now, BackendState.setStalled_loading]
        exact ⟨nofun, nofun⟩
      · rw [BackendState.setStalled_of_ne fun r eq => now ⟨r, eq⟩]
    exact keep _ ready (by rw [Outline.hearIf_eq]) (by rw [Outline.hearIf_eq])
      (Outline.stops_hearIf _ _ fun _ => rfl) nofun nofun
  | @tunnelMade p params call =>
    exact (h.made stageOf_length rfl rfl).owns rfl (stageOf_append _) rfl
      (Outline.stops_hear _ fun _ => rfl)
  | @up p n call r autostart here ok now =>
    -- The tunnel goes over from the setup to the state.
    obtain ⟨g, r', step⟩ := p
    cases here
    have created := h.starting t n (by rw [at_it]; rfl)
    have up := h.up at_it rfl (fun r m => by rw [now]; nofun) r rfl rfl (y := .rest)
    cases autostart with
    | false =>
      exact up.owns rfl (stageOf_setStage created _) rfl (Outline.stops_hear _ fun _ => rfl)
    | true =>
      refine up.owns rfl (stageOf_setStage created _) ?_ (Outline.stops_hear _ fun _ => rfl)
      exact congrArg (Function.update · t .rest) (back.sound.job_spawn_rest _)
  | @discard p n call stop here ok late =>
    -- The setup keeps its tunnel until that has stopped.
    obtain ⟨g, r', step⟩ := p
    cases here
    have starts : (c.job t).starts = some n := by rw [at_it]; rfl
    have created := h.starting t n starts
    refine (h.stop (t := t) created rfl (y := .setup ⟨g, r', .discard n stop⟩) rfl rfl
      (fun u other theirs => other (h.alone u t n theirs starts))
      (fun r m now => ⟨?_, now⟩) fun r m now _ => now).owns rfl (stageOf_discard created) rfl
        (Outline.stops_hear_stop _ n)
    rintro rfl
    cases created.symm.trans (h.ready r m now)
  | @discarded p n stop here =>
    obtain ⟨g, r', step⟩ := p
    cases here
    obtain ⟨s, there, -⟩ := h.stopping t n (by rw [at_it]; rfl)
    exact (h.stopped at_it rfl rfl rfl).owns rfl
      ((stageOf_setConnected _).trans (stageOf_setStage there _)) rfl rfl
  | @takeReady _ r n withHandler stop _ _ ready =>
    -- The tunnel goes over from the state to the task that takes the backend down.
    have running := h.ready r n ready
    rw [Outline.take_eq]
    have stopping : Owned .absent _ _ _ :=
      h.stop (t := t) running rfl (y := .teardown ⟨n, stop⟩) rfl rfl
        (fun u _ theirs => by cases running.symm.trans (h.starting u n theirs)) nofun
        fun r' m now other => by
          cases ready.symm.trans now
          exact absurd rfl other
    exact stopping.owns rfl (stageOf_setStage running _) rfl (Outline.stops_hear_stop _ n)
  | take withHandler _ _ unready =>
    have ready (r : CycleId) (n : TunnelId) : .absent = Phase.ready r n ↔
        c.state.phase = .ready r n := iff_of_false nofun (unready r n)
    generalize c.state.phase.registration?.isSome = said
    rw [Outline.take_eq]
    cases said with
    | false => exact keep _ ready rfl rfl rfl nofun nofun
    | true => exact keep _ ready rfl rfl (Outline.stops_hear _ fun _ => rfl) nofun nofun
  | @stopped p =>
    obtain ⟨s, there, -⟩ := h.stopping t p.tunnel (by rw [at_it]; rfl)
    exact (h.stopped at_it rfl rfl rfl).owns rfl
      ((stageOf_setConnected _).trans (stageOf_setStage there _)) rfl
      (Outline.stops_hear _ fun _ => rfl)
  | dial | lost | hangUp =>
    exact keep _ (fun _ _ => .rfl) rfl rfl (Outline.stops_hear _ fun _ => rfl) nofun nofun
  | hungUp =>
    exact keep _ (fun _ _ => .rfl) (stageOf_setConnected _) rfl
      (Outline.stops_hear _ fun _ => rfl) nofun nofun
  | attemptOver => exact ended c _ ⟨rfl, rfl, rfl, rfl⟩
  | undone => exact ended (c.setConnected _ false) _ ⟨rfl, rfl, stageOf_setConnected _, rfl⟩
  | connected lasting =>
    obtain ⟨tunnels, same, stage⟩ := connect _ lasting
    rw [same]
    exact ended _ _ ⟨rfl, rfl, stage, Outline.stops_hear _ fun _ => rfl⟩
  | connectedLate lasting =>
    obtain ⟨tunnels, same, stage⟩ := connect _ lasting
    rw [same]
    exact ended _ _ ⟨rfl, rfl, stage, rfl⟩
  | undo lasting =>
    obtain ⟨tunnels, same, stage⟩ := connect _ lasting
    rw [same]
    exact keep _ (fun _ _ => .rfl) stage rfl (Outline.stops_hear _ fun _ => rfl) nofun nofun

lemma turned (h : c.Owns) (back : Background c) (own : c.owner t = some o) (at_it : c.job t = x)
    (turned : Turned t o c x d y) : (d.pass t y).Owns := by
  cases turned with
  | once deed => exact h.deed back own at_it deed
  | andLost _ deed =>
    exact (h.deed back own at_it deed).owns rfl rfl rfl (Outline.stops_hear _ fun _ => rfl)

/-- Whatever may happen, every tunnel has one owner. -/
theorem step {calm : Prop} (h : c.Owns) (back : Background c) (step : Step calm c d) : d.Owns := by
  cases step with
  | turn own turned ending =>
    have passed := h.turned back own rfl turned
    cases ending with
    | pass => exact passed
    | finish => exact passed
  | outside happened =>
    cases happened with
    | same | host => exact h
    | ask operation => cases operation <;> exact h.spawn back .caller rfl rfl
    | giveUp own idle => exact h.keep (d := c) idle (fun _ _ => .rfl) rfl rfl rfl nofun nofun
    | drop n => exact Owned.owns h rfl (stageOf_setConnected _) rfl rfl

end Outline.Owns

lemma Setting.owns (s : Setting) : s.world.outline.Owns where
  ready := nofun
  running := nofun
  starting := nofun
  alone := nofun
  stopping := nofun
  told _ := rfl

/-- Every tunnel has one owner in every run. -/
theorem Reaches.owns {s : Setting} {w : World} (run : Reaches s.world w) : w.outline.Owns :=
  (run.keeps (P := fun w => Background w.outline ∧ w.outline.Owns)
    (fun move h => ⟨h.1.step (Move.step move), h.2.step h.1 (Move.step move)⟩)
    ⟨s.background, s.owns⟩).2

/-! ### Tunnels that have started -/

/-- The tunnel has started, whatever became of it. -/
def TunnelStage.begun : TunnelStage → Bool
  | created => false
  | running => true
  | stopping => true
  | stopped => true

/-- The tunnel that has started by the time that a job goes on. -/
def Job.started : Job → Option TunnelId
  | setup ⟨_, _, .startTunnel n ⟨_, .ok _⟩⟩ => some n
  | _ => none

/-- A tunnel has started. -/
def Outline.begun (c : Outline) (n : TunnelId) : Bool :=
  (stageOf c.tunnels n).any TunnelStage.begun

lemma Job.not_started_of_early {p : SetupPoint} (early : p.tunnel? = none) :
    (Job.setup p).started = none := by
  obtain ⟨g, r, step⟩ := p
  cases step with
  | startTunnel => cases early
  | _ => rfl

lemma TunnelStage.begun_of_told {s : TunnelStage} (told : s.told = true) : s.begun = true := by
  cases s <;> first | rfl | cases told

/-- What becomes of the tunnels between two points of a task, and what the task has to do with that.
A tunnel gets on by one stage at most, or by two if it has started too late. -/
inductive Staged (t : TaskId) (o : Owner) (c : Outline) (x : Job) (d : Outline) (y : Job) :
    Prop where
  | same (stage : stageOf d.tunnels = stageOf c.tunnels) (started : x.started = none)
      (stops : x.stops = none)
  /-- The handler drops whatever it is in the middle of. -/
  | dropped (stage : stageOf d.tunnels = stageOf c.tunnels) (handler : o = .handler)
      (cancelled : c.isCancelled t = true)
      (checking : x = .rest ∨ (∃ p, x = .load p) ∨ ∃ p, x = .teardown p)
  | made {n : TunnelId} (new : stageOf c.tunnels n = none)
      (stage : stageOf d.tunnels = Function.update (stageOf c.tunnels) n (some .created))
      (started : x.started = none) (stops : x.stops = none)
  | up {n : TunnelId} (created : stageOf c.tunnels n = some .created)
      (stage : stageOf d.tunnels = Function.update (stageOf c.tunnels) n (some .running))
      (started : x.started = some n) (stops : x.stops = none)
  | discard {n : TunnelId} (created : stageOf c.tunnels n = some .created)
      (stage : stageOf d.tunnels = Function.update (stageOf c.tunnels) n (some .stopping))
      (started : x.started = some n) (stops : x.stops = none) (stops' : y.stops = some n)
  | taken {n : TunnelId} (running : stageOf c.tunnels n = some .running)
      (stage : stageOf d.tunnels = Function.update (stageOf c.tunnels) n (some .stopping))
      (started : x.started = none) (stops : x.stops = none) (stops' : y.stops = some n)
  | stopped {n : TunnelId} {s : TunnelStage} (there : stageOf c.tunnels n = some s)
      (told : s.told = true)
      (tunnels : d.tunnels = ((c.setStage n .stopped).setConnected n false).tunnels)
      (started : x.started = none) (stops : x.stops = some n)

lemma Staged.stage_of_stopped {c d : Outline} {n : TunnelId} {s : TunnelStage}
    (there : stageOf c.tunnels n = some s)
    (tunnels : d.tunnels = ((c.setStage n .stopped).setConnected n false).tunnels) :
    stageOf d.tunnels = Function.update (stageOf c.tunnels) n (some .stopped) := by
  rw [tunnels]
  exact (stageOf_setConnected _).trans (stageOf_setStage there _)

lemma Deed.staged {t : TaskId} {o : Owner} {c d : Outline} {x y : Job} (h : c.Owns)
    (at_it : c.job t = x) (deed : Deed t o c x d y) : Staged t o c x d y := by
  have early {p : SetupPoint} (early : p.tunnel? = none) :
      (Job.setup p).started = none ∧ (Job.setup p).stops = none :=
    ⟨Job.not_started_of_early early, (Job.no_tunnel early).2⟩
  cases deed with
  | dropped handler cancelled checking => exact .dropped rfl handler cancelled checking
  | begin =>
    rw [Outline.begin_eq]
    exact .same rfl rfl rfl
  | setupOn _ none | certified _ none | setupLate none =>
    exact .same rfl (early none).1 (early none).2
  | @stalled p said _ failed kept =>
    -- Setup does not stall where its tunnel has just started, nor where that is to be discarded.
    rw [Outline.hearIf_eq]
    obtain ⟨g, r, step⟩ := p
    refine .same rfl ?_ ?_
    · cases step with
      | startTunnel m call =>
        obtain ⟨due, answer⟩ := call
        cases answer with
        | ok => exact absurd rfl (failed m _ rfl)
        | error e => rfl
      | _ => rfl
    · cases step with
      | discard m call => exact absurd rfl (kept m call)
      | _ => rfl
  | tunnelMade _ _ none =>
    exact .made stageOf_length (stageOf_append _) (early none).1 (early none).2
  | @up p m call r autostart here ok =>
    obtain ⟨g, r', step⟩ := p
    obtain ⟨due, answer⟩ := call
    cases here
    cases ok
    have created := h.starting t m (by rw [at_it]; rfl)
    cases autostart <;> exact .up created (stageOf_setStage created _) rfl rfl
  | @discard p m call stop here ok =>
    obtain ⟨g, r', step⟩ := p
    obtain ⟨due, answer⟩ := call
    cases here
    cases ok
    have created := h.starting t m (by rw [at_it]; rfl)
    exact .discard created (stageOf_discard created) rfl rfl rfl
  | @discarded p m stop here =>
    obtain ⟨g, r', step⟩ := p
    cases here
    obtain ⟨s, there, told⟩ := h.stopping t m (by rw [at_it]; rfl)
    exact .stopped there told rfl rfl rfl
  | @takeReady _ r m withHandler stop _ asked ready =>
    have running := h.ready r m ready
    rw [Outline.take_eq]
    refine .taken running (stageOf_setStage running _) ?_ ?_ rfl <;>
      cases withHandler <;> exact asked ▸ rfl
  | take withHandler _ asked =>
    rw [Outline.hearIf_eq, Outline.take_eq]
    refine .same rfl ?_ ?_ <;> cases withHandler <;> exact asked ▸ rfl
  | @stopped p =>
    obtain ⟨s, there, told⟩ := h.stopping t p.tunnel (by rw [at_it]; rfl)
    exact .stopped there told rfl rfl rfl
  | attemptOver =>
    rw [Outline.endAttempt_eq]
    exact .same rfl rfl rfl
  | connected lasting | connectedLate lasting =>
    rw [Outline.endAttempt_eq]
    exact .same (c.stageOf_connect _ lasting) rfl rfl
  | undo lasting => exact .same (c.stageOf_connect _ lasting) rfl rfl
  | undone =>
    rw [Outline.endAttempt_eq]
    exact .same (stageOf_setConnected _) rfl rfl
  | hungUp => exact .same (stageOf_setConnected _) rfl rfl
  | _ => exact .same rfl rfl rfl

/-- A tunnel starts as soon as the setup that waits for it goes on, and not before. -/
lemma Deed.begun {t : TaskId} {o : Owner} {c d : Outline} {x y : Job} (h : c.Owns)
    (at_it : c.job t = x) (mine : o = .handler → x.started = none) (deed : Deed t o c x d y)
    (n : TunnelId) : d.begun n = true ↔ c.begun n = true ∨ x.started = some n := by
  have same (stage : stageOf d.tunnels = stageOf c.tunnels) (idle : x.started = none) :
      d.begun n = true ↔ c.begun n = true ∨ x.started = some n := by
    simp only [Outline.begun, stage, idle, reduceCtorEq, or_false]
  have moved {m : TunnelId} {s : TunnelStage}
      (stage : stageOf d.tunnels = Function.update (stageOf c.tunnels) m (some s))
      (idle : x.started = none) (before : (stageOf c.tunnels m).any TunnelStage.begun = s.begun) :
      d.begun n = true ↔ c.begun n = true ∨ x.started = some n := by
    simp only [Outline.begun, stage, idle, reduceCtorEq, or_false]
    by_cases here : n = m
    · rw [here, Function.update_self, before]
      rfl
    · rw [Function.update_of_ne here]
  have started {m : TunnelId} {s : TunnelStage}
      (stage : stageOf d.tunnels = Function.update (stageOf c.tunnels) m (some s))
      (now : x.started = some m) (begun : s.begun = true) :
      d.begun n = true ↔ c.begun n = true ∨ x.started = some n := by
    simp only [Outline.begun, stage, now, Option.some.injEq]
    by_cases here : n = m
    · rw [here, Function.update_self]
      exact iff_of_true begun (.inr rfl)
    · rw [Function.update_of_ne here, or_iff_left (Ne.symm here)]
  cases deed.staged h at_it with
  | same stage idle => exact same stage idle
  | dropped stage handler => exact same stage (mine handler)
  | made new stage idle => exact moved stage idle (by rw [new]; rfl)
  | up _ stage now | discard _ stage now => exact started stage now rfl
  | taken running stage idle => exact moved stage idle (by rw [running]; rfl)
  | stopped there told tunnels idle =>
    refine moved (Staged.stage_of_stopped there tunnels) idle ?_
    rw [there]
    exact TunnelStage.begun_of_told told

namespace Job

lemma started_eq_some_iff {x : Job} {n : TunnelId} : x.started = some n ↔
    ∃ p call, x = .setup p ∧ p.step = .startTunnel n call ∧ call.answer = .ok () := by
  constructor
  · intro now
    unfold started at now
    split at now
    · cases now
      exact ⟨_, _, rfl, rfl, rfl⟩
    · cases now
  · rintro ⟨⟨g, r, step⟩, ⟨due, answer⟩, rfl, here, ok⟩
    cases here
    cases ok
    rfl

end Job

/-- In this move a call to start a tunnel returns, and the tunnel has started. -/
def Move.Starts (n : TunnelId) (m : Move) (w : World) : Prop :=
  ∃ t p call, m = .turn t ∧ w.schedule.point? t = some (.setup p) ∧
    p.step = .startTunnel n call ∧ call.answer = .ok ()

lemma Outside.stageOf_tunnels {c d : Outline} (happened : Outside c d) :
    stageOf d.tunnels = stageOf c.tunnels := by
  cases happened with
  | drop n => exact stageOf_setConnected _
  | _ => rfl

lemma Move.begun {m : Move} {w w' : World} (owns : w.outline.Owns)
    (move : m.outcome? w = some w') (n : TunnelId) :
    w'.outline.begun n = true ↔ w.outline.begun n = true ∨ m.Starts n w := by
  rcases Move.cases move with ⟨t, task, d, y, rfl, here, turned, ending⟩ | ⟨other, happened⟩
  · have handler (own : task.owner = .handler) : task.job.started = none := by
      cases task with
      | handler p =>
        rcases p.job_cases with eq | ⟨q, eq⟩ | ⟨q, eq⟩ <;> rw [Task.job, eq] <;> rfl
      | _ => cases own
    have starts : (Move.turn t).Starts n w ↔ task.job.started = some n := by
      rw [Job.started_eq_some_iff]
      constructor
      · rintro ⟨t', p, call, same, here', step, ok⟩
        cases same
        cases here.symm.trans here'
        exact ⟨p, call, rfl, step, ok⟩
      · rintro ⟨p, call, job, step, ok⟩
        exact ⟨t, p, call, rfl, Task.eq_setup_of_job job ▸ here, step, ok⟩
    have after : w'.outline.begun n = d.begun n := by
      unfold Outline.begun
      rw [ending.tunnels]
    rw [after, starts]
    cases turned with
    | once deed => exact deed.begun owns (World.outline_job here) handler n
    | andLost _ deed =>
      exact deed.begun owns (World.outline_job here) handler n
  · have other : ¬ m.Starts n w := by
      rintro ⟨t, p, call, eq, -⟩
      exact other t eq
    have same : w'.outline.begun n = w.outline.begun n := by
      unfold Outline.begun
      rw [happened.stageOf_tunnels]
    rw [or_iff_left other, same]

namespace World

/-- How often a tunnel has been told to stop. -/
def stops (w : World) (n : TunnelId) : Nat := w.trace.countP fun (_, e) => e.isStop n

lemma outline_stops (w : World) (n : TunnelId) : w.outline.stops n = w.stops n := by
  unfold Outline.stops stops outline
  rw [List.countP_filter, List.countP_map]
  congr 1
  funext ⟨_, e⟩
  cases e <;> simp [Event.isStop, Event.marked]

end World

/-- **Every running tunnel belongs to the state.** A tunnel has started and has not been told to
stop if and only if it is the one that is ready, and no tunnel is told to stop twice. -/
theorem started_tunnel_is_ready {s : Setting} {moves : List Move} {w : World}
    (run : s.world.after? moves = some w) (n : TunnelId) :
    ((s.world.Sometime (fun m v _ => m.Starts n v) moves ∧ w.stops n = 0) ↔
      ∃ r, w.state.phase = .ready r n) ∧ w.stops n ≤ 1 := by
  have owns : w.outline.Owns := Reaches.owns ⟨moves, run⟩
  have begun := World.sometime_iff (Q := fun v => v.outline.begun n = true)
    (I := fun v => Background v.outline ∧ v.outline.Owns) (P := fun m v _ => m.Starts n v)
    (fun move h => ⟨h.1.step (Move.step move), h.2.step h.1 (Move.step move)⟩)
    (fun move h => Move.begun h.2 move n) run ⟨s.background, s.owns⟩
  rw [or_iff_right (by exact nofun)] at begun
  have told := owns.told n
  rw [World.outline_stops] at told
  rw [← begun]
  refine ⟨⟨?_, ?_⟩, ?_⟩
  · rintro ⟨started, untold⟩
    refine owns.running n ?_
    obtain ⟨stage, there, begun⟩ := (Option.any_eq_true ..).1 started
    rw [there, untold] at told
    cases stage with
    | created => cases begun
    | running => exact there
    | stopping | stopped => cases told
  · rintro ⟨r, ready⟩
    have running := owns.ready r n ready
    rw [running] at told
    refine ⟨?_, told⟩
    unfold Outline.begun
    rw [running]
    rfl
  · rw [told]
    split <;> decide

/-- With a first backend, its tunnel has started. -/
theorem firstBackend_starts_tunnel : ∃ w : World,
    ({} : Setting).world.after? firstBackend = some w ∧
      ({} : Setting).world.Sometime (fun m v _ => m.Starts 0 v) firstBackend ∧ w.stops 0 = 0 := by
  have seen : (({} : Setting).world.after? firstBackend).map (fun w => w.state.phase) =
      some (.ready 0 0) := rfl
  obtain ⟨w, run, ready⟩ := Option.map_eq_some_iff.1 seen
  exact ⟨w, run, (started_tunnel_is_ready run 0).1.2 ⟨0, ready⟩⟩

end TunnelKeeper.Coordinator
