import TunnelKeeper.Proofs.Background
import TunnelKeeper.Proofs.Runs

/-!
Who carries a load. While an instance registers, exactly one load works for the current generation,
and while a backend loads, exactly one setup does. Loads and setups of earlier generations may still
be at work, but the state does not wait for them.
-/

namespace TunnelKeeper.Coordinator

/-! ### Duties -/

/-- What a phase may wait for. -/
inductive Duty where
  | load
  | setup
  deriving DecidableEq

/-- The duty of a job, and the generation that it is for. -/
def Job.duty : Job → Option (Duty × Nat)
  | load p => some (.load, p.generation)
  | setup p => some (.setup, p.generation)
  | _ => none

namespace Job

variable {x : Job} {g : Nat}

lemma duty_eq_load_iff : x.duty = some (.load, g) ↔ ∃ p, x = .load p ∧ p.generation = g := by
  cases x <;> simp [duty]

lemma duty_eq_setup_iff : x.duty = some (.setup, g) ↔ ∃ p, x = .setup p ∧ p.generation = g := by
  cases x <;> simp [duty]

lemma generation_of_load {p : LoadPoint} {k : Duty} (h : (load p).duty = some (k, g)) :
    p.generation = g :=
  (Prod.mk.inj (Option.some.inj h)).2

lemma generation_of_setup {p : SetupPoint} {k : Duty} (h : (setup p).duty = some (k, g)) :
    p.generation = g :=
  (Prod.mk.inj (Option.some.inj h)).2

end Job

/-- The duty that a state waits for. -/
def dutyOf (s : State) : Option (Duty × Nat) :=
  match s.phase with
  | .registering => some (.load, s.generation)
  | .loading _ => some (.setup, s.generation)
  | _ => none

lemma state_of_dutyOf_load {s : State} {g : Nat} (h : dutyOf s = some (.load, g)) :
    s = ⟨g, .registering⟩ := by
  obtain ⟨g', phase⟩ := s
  cases phase <;> simp_all [dutyOf]

lemma state_of_dutyOf_setup {s : State} {g : Nat} (h : dutyOf s = some (.setup, g)) :
    ∃ r, s = ⟨g, .loading r⟩ := by
  obtain ⟨g', phase⟩ := s
  cases phase <;> simp_all [dutyOf]

/-- The duty that the state waits for is carried by one job, and no other job works for the current
generation, least of all that of a handler that has been cancelled. -/
structure Carried (s : State) (job : TaskId → Job) (cancelled : List TaskId) : Prop where
  past : ∀ t k g, (job t).duty = some (k, g) → g ≤ s.generation
  due : ∀ t k, (job t).duty = some (k, s.generation) → dutyOf s = some (k, s.generation)
  alone : ∀ t u k, (job t).duty = some (k, s.generation) → (job u).duty = some (k, s.generation) →
    t = u
  someone : ∀ k g, dutyOf s = some (k, g) → ∃ t, (job t).duty = some (k, g)
  dropped : ∀ t k g, t ∈ cancelled → (job t).duty = some (k, g) → g < s.generation

namespace Carried

variable {s s' : State} {job job' : TaskId → Job} {cancelled cancelled' : List TaskId} {t : TaskId}
  {x y : Job}

lemma lt_of_late (h : Carried s job cancelled) {k : Duty} {g : Nat}
    (at_it : (job t).duty = some (k, g)) (late : dutyOf s ≠ some (k, g)) : g < s.generation := by
  refine Nat.lt_of_le_of_ne (h.past t k g at_it) ?_
  rintro rfl
  exact late (h.due t k at_it)

/-- Besides the one who works for the current generation, all work for earlier ones. -/
lemma lt_of_other (h : Carried s job cancelled) {u : TaskId} {k k' : Duty} {g : Nat}
    (mine : (job t).duty = some (k, s.generation)) (other : u ≠ t)
    (theirs : (job u).duty = some (k', g)) : g < s.generation := by
  refine Nat.lt_of_le_of_ne (h.past u k' g theirs) ?_
  rintro rfl
  cases (h.due t k mine).symm.trans (h.due u k' theirs)
  exact other (h.alone u t k theirs mine)

lemma stay (h : Carried s job cancelled) (at_it : job t = x)
    (old : ∀ k g, y.duty = some (k, g) → x.duty = some (k, g))
    (now : ∀ k, x.duty = some (k, s.generation) → y.duty = some (k, s.generation)) :
    Carried s (Function.update job t y) cancelled := by
  have before (u : TaskId) (k : Duty) (g : Nat)
      (h' : (Function.update job t y u).duty = some (k, g)) : (job u).duty = some (k, g) := by
    by_cases same : u = t
    · rw [same, Function.update_self] at h'
      rw [same, at_it]
      exact old k g h'
    · rwa [Function.update_of_ne same] at h'
  refine ⟨fun u k g h' => h.past u k g (before u k g h'),
    fun u k h' => h.due u k (before u k _ h'),
    fun u v k h' h'' => h.alone u v k (before u k _ h') (before v k _ h''),
    fun k g waits => ?_, fun u k g there h' => h.dropped u k g there (before u k g h')⟩
  obtain ⟨u, carries⟩ := h.someone k g waits
  refine ⟨u, ?_⟩
  by_cases same : u = t
  · rw [same, at_it] at carries
    have current : g = s.generation := by
      unfold dutyOf at waits
      split at waits <;> cases waits <;> rfl
    rw [same, Function.update_self, current]
    exact now k (current ▸ carries)
  · rwa [Function.update_of_ne same]

lemma ended (none : dutyOf s' = none)
    (old : ∀ u k g, (job' u).duty = some (k, g) → g < s'.generation) :
    Carried s' job' cancelled' where
  past u k g h := Nat.le_of_lt (old u k g h)
  due u k h := absurd (old u k _ h) (Nat.lt_irrefl _)
  alone u _ k h := absurd (old u k _ h) (Nat.lt_irrefl _)
  someone _ _ waits := nomatch none.symm.trans waits
  dropped u k g _ h := old u k g h

lemma handed {v : TaskId} {k : Duty} (mine : (job' v).duty = some (k, s'.generation))
    (waits : dutyOf s' = some (k, s'.generation)) (live : v ∉ cancelled')
    (old : ∀ u k' g, u ≠ v → (job' u).duty = some (k', g) → g < s'.generation) :
    Carried s' job' cancelled' := by
  have only (u : TaskId) (k' : Duty) (h : (job' u).duty = some (k', s'.generation)) : u = v := by
    by_contra other
    exact Nat.lt_irrefl _ (old u k' _ other h)
  refine ⟨fun u k' g h => ?_, fun u k' h => ?_, fun u u' k' h h' => ?_, fun k' g h => ?_,
    fun u k' g there h => old u k' g (fun same => live (same ▸ there)) h⟩
  · by_cases same : u = v
    · rw [same, mine] at h
      cases h
      exact Nat.le_refl _
    · exact Nat.le_of_lt (old u k' g same h)
  · obtain rfl := only u k' h
    rw [waits, ← mine, h]
  · rw [only u k' h, only u' k' h']
  · exact ⟨v, by rw [mine, ← waits, h]⟩

end Carried

/-! ### Loads and setups -/

/-- The loads and setups of a world that can be reached. -/
structure Loads (c : Outline) : Prop where
  carried : Carried c.state c.job c.handlerSlot.cancelled
  /-- Who discards a tunnel does so because the generation is past. -/
  discarding : ∀ t p n stop, c.job t = .setup p → p.step = .discard n stop →
    p.generation < c.state.generation

namespace Loads

variable {c d : Outline} {t : TaskId} {o : Owner} {x y : Job}

lemma discarding_of (h : Loads c) (le : c.state.generation ≤ d.state.generation)
    (job : ∀ u, u ≠ t → ∀ p n stop, d.job u = .setup p → p.step = .discard n stop →
      c.job u = .setup p)
    (new : ∀ p n stop, y = .setup p → p.step = .discard n stop →
      p.generation < d.state.generation) (u : TaskId) (p : SetupPoint) (n : TunnelId)
    (stop : Call Unit) (at_it : (d.pass t y).job u = .setup p) (here : p.step = .discard n stop) :
    p.generation < d.state.generation := by
  by_cases same : u = t
  · rw [same] at at_it
    exact new p n stop ((Roster.job_pass_self y).symm.trans at_it) here
  · have at_it := (Roster.job_pass_of_ne same y).symm.trans at_it
    exact Nat.lt_of_lt_of_le (h.discarding u p n stop (job u same p n stop at_it here) here) le

/-- Who has a duty after the task has laid down its own is somebody else. -/
lemma duty_before {job : TaskId → Job} (same : d.job = job) (idle : y.duty = none) {u : TaskId}
    {k : Duty} {g : Nat} (duty : ((d.pass t y).job u).duty = some (k, g)) :
    u ≠ t ∧ (job u).duty = some (k, g) := by
  have other : u ≠ t := by
    rintro rfl
    cases idle.symm.trans ((congrArg Job.duty (Roster.job_pass_self y)).symm.trans duty)
  exact ⟨other, same ▸ (congrArg Job.duty (Roster.job_pass_of_ne other y)).symm.trans duty⟩

/-- The state does not change, and the task goes on with its duty or ends too late to matter. -/
lemma stay (h : Loads c) (at_it : c.job t = x) (state : d.state = c.state) (job : d.job = c.job)
    (slot : d.handlerSlot = c.handlerSlot)
    (old : ∀ k g, y.duty = some (k, g) → x.duty = some (k, g))
    (now : ∀ k, x.duty = some (k, c.state.generation) → y.duty = some (k, c.state.generation))
    (new : ∀ p n stop, y = .setup p → p.step = .discard n stop →
      p.generation < c.state.generation) : Loads (d.pass t y) where
  carried := by
    have carried := h.carried.stay at_it old now
    rwa [← state, ← job, ← slot] at carried
  discarding := h.discarding_of (Nat.le_of_eq (congrArg _ state.symm)) (fun u _ p n stop at_it _ =>
    job ▸ at_it) (state.symm ▸ new)

lemma quiet (h : Loads c) (at_it : c.job t = x) (state : d.state = c.state) (job : d.job = c.job)
    (slot : d.handlerSlot = c.handlerSlot) (before : x.duty = none) (after : y.duty = none) :
    Loads (d.pass t y) := by
  refine h.stay at_it state job slot (fun k g h => ?_) (fun k h => ?_) fun p n stop h => ?_
  · cases after.symm.trans h
  · cases before.symm.trans h
  · cases after.symm.trans (h ▸ rfl : y.duty = some (.setup, p.generation))

lemma late (h : Loads c) (at_it : c.job t = x) (state : d.state = c.state) (job : d.job = c.job)
    (slot : d.handlerSlot = c.handlerSlot) (late : ∀ k, x.duty ≠ some (k, c.state.generation)) :
    Loads (d.pass t .rest) :=
  h.stay at_it state job slot nofun (fun k h => absurd h (late k)) nofun

lemma taken (h : Loads c) (state : d.state = c.state.take.2)
    (job : d.job = c.job) (after : y.duty = none) : Loads (d.pass t y) := by
  have generation : d.state.generation = c.state.generation + 1 := by rw [state]; rfl
  refine ⟨.ended (congrArg dutyOf state) fun u k g h' => ?_,
    h.discarding_of (by omega) (fun u _ p n stop at_it _ => job ▸ at_it) fun p n stop eq => ?_⟩
  · exact generation ▸ Nat.lt_succ_of_le (h.carried.past u k g (duty_before job after h').2)
  · cases after.symm.trans (eq ▸ rfl : y.duty = some (.setup, p.generation))

lemma fulfilled (h : Loads c) (at_it : c.job t = x) {k : Duty}
    (mine : x.duty = some (k, c.state.generation))
    (generation : d.state.generation = c.state.generation) (done : dutyOf d.state = none)
    (job : d.job = c.job) : Loads (d.pass t .rest) := by
  refine ⟨.ended done fun u k' g h' => ?_, h.discarding_of (Nat.le_of_eq generation.symm)
    (fun u _ p n stop at_it _ => job ▸ at_it) nofun⟩
  obtain ⟨other, h'⟩ := duty_before job rfl h'
  exact generation ▸ h.carried.lt_of_other (at_it ▸ mine) other h'

lemma begun (h : Loads c) {p : LoadPoint}
    (new : p.generation = c.state.generation + 1) (live : t ∉ c.handlerSlot.cancelled)
    (state : d.state = ⟨c.state.generation + 1, .registering⟩) (job : d.job = c.job)
    (slot : d.handlerSlot.cancelled = c.handlerSlot.cancelled) : Loads (d.pass t (.load p)) := by
  have generation : d.state.generation = c.state.generation + 1 := by rw [state]
  refine ⟨.handed (v := t) (k := .load) ?_ ?_ (slot.symm ▸ live) fun u k g other h' => ?_,
    h.discarding_of (by omega) (fun u _ p n stop at_it _ => job ▸ at_it) nofun⟩
  · rw [show (d.pass t (.load p)).job t = .load p from Roster.job_pass_self _, Job.duty, new]
    exact congrArg (fun g => some (Duty.load, g)) generation.symm
  · show dutyOf d.state = some (.load, d.state.generation)
    rw [state]
    rfl
  · rw [show (d.pass t (.load p)).job u = c.job u from (Roster.job_pass_of_ne other _).trans
      (congrFun job u)] at h'
    exact generation ▸ Nat.lt_succ_of_le (h.carried.past u k g h')

lemma registered (h : Loads c) (back : Background c) (own : c.owner t = some o) {p : LoadPoint}
    (at_it : c.job t = .load p) (r : CycleId) (now : c.state = ⟨p.generation, .registering⟩) :
    Loads (({ c with state := ⟨p.generation, .loading r⟩ }.spawn .caller
      (.setup ⟨p.generation, r, .start⟩)).pass t .rest) := by
  have generation : c.state.generation = p.generation := by rw [now]
  have old : t ≠ c.next := Nat.ne_of_lt (back.sound.lt_next own)
  have mine : (c.job t).duty = some (.load, c.state.generation) := by
    rw [at_it, generation]
    rfl
  have job (u : TaskId) : (({ c with state := ⟨p.generation, .loading r⟩ }.spawn .caller
      (.setup ⟨p.generation, r, .start⟩)).pass t .rest).job u =
        if u = t then .rest else if u = c.next then .setup ⟨p.generation, r, .start⟩
          else c.job u := by
    by_cases same : u = t
    · rw [if_pos same, same]
      exact Roster.job_pass_self _
    · rw [if_neg same]
      exact (Roster.job_pass_of_ne same _).trans (back.sound.job_spawn _ _ u)
  refine ⟨.handed (v := c.next) (k := .setup) ?_ rfl ?_ fun u k g other h' => ?_,
    fun u q n stop at_it' here => ?_⟩
  · rw [job, if_neg (Ne.symm old), if_pos rfl]
    rfl
  · exact fun cancelled => Nat.lt_irrefl _ (back.handler.cancelled _ cancelled).1
  · rw [job, if_neg other] at h'
    split at h'
    · cases h'
    · next same => exact generation ▸ h.carried.lt_of_other mine same h'
  · rw [job] at at_it'
    split at at_it'
    · cases at_it'
    · split at at_it'
      · cases at_it'
        cases here
      · exact generation ▸ h.discarding u q n stop at_it' here

lemma registering_of_load (h : Loads c) {p : LoadPoint} (at_it : c.job t = .load p)
    (current : p.generation = c.state.generation) : c.state = ⟨p.generation, .registering⟩ := by
  have waits := h.carried.due t .load (by rw [at_it, ← current]; rfl)
  rw [current]
  exact state_of_dutyOf_load waits

lemma loading_of_setup (h : Loads c) {p : SetupPoint} (at_it : c.job t = .setup p)
    (current : p.generation = c.state.generation) : ∃ r, c.state = ⟨p.generation, .loading r⟩ := by
  have waits := h.carried.due t .setup (by rw [at_it, ← current]; rfl)
  rw [current]
  exact state_of_dutyOf_setup waits

/-- A handler that has been cancelled does not work for the current generation. -/
lemma not_duty_of_dropped (h : Loads c) (back : Background c) (own : c.owner t = some .handler)
    (cancelled : c.isCancelled t = true) (k : Duty) :
    (c.job t).duty ≠ some (k, c.state.generation) := fun mine =>
  Nat.lt_irrefl _ (h.carried.dropped t k _ (back.cancelled_handler own cancelled) mine)

/-- Between two points of a task, its duty is done or goes on. -/
lemma deed (h : Loads c) (back : Background c) (own : c.owner t = some o) (at_it : c.job t = x)
    (deed : Deed t o c x d y) : Loads (d.pass t y) := by
  have ended (c' : Outline) (a : Attempt) (same : c'.toRoster = c.toRoster ∧
      c'.state = c.state ∧ c'.handlerSlot = c.handlerSlot) (idle : x.duty = none) :
      Loads ((c'.endAttempt t a).pass t .rest) := by
    obtain ⟨roster, state, slot⟩ := same
    rcases c'.endAttempt_cases t a with same | ⟨-, -, spawned⟩
    · rw [same]
      exact h.quiet at_it state (congrArg _ roster) slot idle rfl
    · rw [spawned]
      refine h.quiet at_it state ?_ slot idle rfl
      exact (congrArg (fun r : Roster => (r.spawn _ .rest).job) roster).trans
        (back.sound.job_spawn_rest _)
  cases deed with
  | rest | stay | release | hangUp | hungUp | lost | stopped | queue | attemptOn | dial =>
    exact h.quiet at_it rfl rfl rfl rfl rfl
  | delegate => exact h.quiet at_it rfl (back.sound.job_spawn_rest _) rfl rfl rfl
  | dropped handler cancelled =>
    -- The load that is dropped with the handler is for a generation that is past.
    refine h.late at_it rfl rfl rfl fun k duty => ?_
    exact h.not_duty_of_dropped back (handler ▸ own) cancelled k (at_it ▸ duty)
  | begin free live idle new =>
    -- The handler may begin a load too, but not once it has been cancelled.
    have live : t ∉ c.handlerSlot.cancelled := by
      intro cancelled
      have handler := (back.handler.cancelled t cancelled).2 o own
      cases o with
      | handler => exact of_decide_eq_false (Bool.or_eq_false_iff.1 (live rfl)).1 cancelled
      | _ => cases handler
    rcases c.begin_cases with ⟨-, same⟩ | ⟨-, spawned⟩
    · rw [same]
      exact h.begun new live rfl rfl rfl
    · rw [spawned]
      exact h.begun new live rfl (back.sound.job_spawn_rest _) rfl
  | loadOn same =>
    refine h.stay at_it rfl rfl rfl ?_ ?_ nofun
    · intro k g duty
      rwa [Job.duty, same] at duty
    · intro k duty
      rwa [Job.duty, same]
  | loadLate late =>
    refine h.late at_it rfl rfl rfl fun k duty => late ?_
    exact h.registering_of_load at_it (Job.generation_of_load duty)
  | loadFailed now =>
    exact h.fulfilled at_it (by rw [now]; rfl) (by rw [now]) rfl rfl
  | registered r now => exact h.registered back own at_it r now
  | setupOn step early still =>
    refine h.stay at_it rfl rfl rfl (fun _ _ => id) (fun _ => id) ?_
    rintro _ n stop ⟨⟩ here
    cases here
    cases still
  | certified step early still =>
    refine h.stay at_it rfl rfl rfl (fun _ _ => id) (fun _ => id) ?_
    rintro _ n stop ⟨⟩ here
    cases here
    cases still
  | setupLate _ late =>
    refine h.late at_it rfl rfl rfl fun k duty => late ?_
    exact (Job.generation_of_setup duty).symm
  | @stalled p said =>
    rw [Outline.hearIf_eq]
    by_cases now : ∃ r, c.state = ⟨p.generation, .loading r⟩
    · obtain ⟨r, now⟩ := now
      rw [now, BackendState.setStalled_loading]
      exact h.fulfilled at_it (by rw [now]; rfl) (by rw [now]) rfl rfl
    · rw [BackendState.setStalled_of_ne fun r eq => now ⟨r, eq⟩]
      refine h.late at_it rfl rfl rfl fun k duty => now ?_
      exact h.loading_of_setup at_it (Job.generation_of_setup duty)
  | tunnelMade params call early =>
    refine h.stay at_it rfl rfl rfl (fun _ _ => id) (fun _ => id) ?_
    rintro _ n stop ⟨⟩ here
    cases here
  | up r autostart here ok now =>
    have up (d : Outline) := h.fulfilled (d := d) at_it (k := .setup) (by rw [now]; rfl)
    cases autostart with
    | false => exact up _ (by rw [now]; rfl) rfl rfl
    | true => exact up _ (by rw [now]; rfl) rfl (back.sound.job_spawn_rest _)
  | discard stop here ok late =>
    -- From here on the setup works for a generation that is past.
    refine h.stay at_it rfl rfl rfl (fun _ _ => id) (fun _ => id) ?_
    rintro _ n' stop' ⟨⟩ -
    refine h.carried.lt_of_late (congrArg Job.duty at_it) fun waits => ?_
    obtain ⟨r, now⟩ := state_of_dutyOf_setup waits
    exact late r now
  | @discarded p n stop here =>
    refine h.late at_it rfl rfl rfl fun k duty => ?_
    have past := h.discarding t p n stop at_it here
    exact Nat.ne_of_lt past (Job.generation_of_setup duty)
  | takeReady withHandler =>
    rw [Outline.take_eq]
    exact h.taken rfl rfl rfl
  | take withHandler =>
    rw [Outline.hearIf_eq, Outline.take_eq]
    exact h.taken rfl rfl rfl
  | attemptOver => exact ended c _ ⟨rfl, rfl, rfl⟩ rfl
  | undone => exact ended (c.setConnected _ false) _ ⟨rfl, rfl, rfl⟩ rfl
  | connected lasting | connectedLate lasting =>
    rw [Outline.connect_eq]
    exact ended _ _ ⟨rfl, rfl, rfl⟩ rfl
  | undo lasting =>
    rw [Outline.connect_eq]
    exact h.quiet at_it rfl rfl rfl rfl rfl

lemma turned (h : Loads c) (back : Background c) (own : c.owner t = some o) (at_it : c.job t = x)
    (turned : Turned t o c x d y) : Loads (d.pass t y) := by
  cases turned with
  | once deed => exact h.deed back own at_it deed
  | andLost _ deed =>
    have h := h.deed back own at_it deed
    exact ⟨h.carried, h.discarding⟩

lemma ending {calm : Prop} {e : Outline} (h : Loads (d.pass t y))
    (ending : Ending calm t o c d y e) : Loads e := by
  cases ending with
  | pass => exact h
  | finish =>
    refine ⟨?_, h.discarding⟩
    have carried := h.carried
    rw [show (d.pass t .rest).handlerSlot.cancelled = _ from
      (d.handlerSlot.cancelled_finish t).symm] at carried
    exact carried

lemma outside (h : Loads c) (back : Background c) (happened : Outside c d) : Loads d := by
  cases happened with
  | same => exact h
  | ask operation =>
    have idle : operation.job.duty = none := by cases operation <;> rfl
    have at_it : c.job c.next = .rest := back.sound.vacant _ (back.sound.fresh _ (Nat.le_refl _))
    have new : (c.spawn .caller operation.job).job = (c.pass c.next operation.job).job :=
      back.sound.job_spawn_eq_pass _ _
    have h := h.quiet (d := c) at_it rfl rfl rfl rfl idle
    refine ⟨?_, ?_⟩
    · rw [new]
      exact h.carried
    · rw [new]
      exact h.discarding
  | giveUp own idle =>
    have h := h.quiet (d := c) idle rfl rfl rfl rfl (rfl : Job.rest.duty = none)
    exact ⟨h.carried, h.discarding⟩
  | drop | host => exact ⟨h.carried, h.discarding⟩

/-- Whatever may happen, the current load is carried by exactly one task. -/
theorem step {calm : Prop} (h : Loads c) (back : Background c) (step : Step calm c d) :
    Loads d := by
  cases step with
  | turn own turned ending => exact (h.turned back own rfl turned).ending ending
  | outside happened => exact h.outside back happened

/-- Once the host's runtime is there, whoever works for the current generation moves the state on
or comes closer to it. -/
lemma closer (h : Loads c) (back : Background c) (own : c.owner t = some o) {k : Duty}
    (at_it : c.job t = x) (mine : x.duty = some (k, c.state.generation))
    (there : c.runtimeReady = true) (turned : Turned t o c x d y) :
    d.state ≠ c.state ∨
      d.state = c.state ∧ y.duty = some (k, c.state.generation) ∧ y.rank < x.rank := by
  cases turned with
  | andLost attempt => cases attempt ▸ mine
  | once deed =>
    cases deed with
    | dropped handler cancelled =>
      exact absurd (at_it ▸ mine) (h.not_duty_of_dropped back (handler ▸ own) cancelled k)
    | loadOn same closer =>
      refine .inr ⟨rfl, ?_, closer⟩
      rwa [Job.duty, same]
    | loadLate late =>
      exact absurd (h.registering_of_load at_it (Job.generation_of_load mine)) late
    | loadFailed now | registered _ now =>
      rw [now]
      exact .inl nofun
    | setupOn step _ _ closer => exact .inr ⟨rfl, mine, closer there⟩
    | certified _ _ _ closer | tunnelMade _ _ _ closer => exact .inr ⟨rfl, mine, closer⟩
    | setupLate _ late => exact absurd (Job.generation_of_setup mine).symm late
    | stalled =>
      obtain ⟨r, now⟩ := h.loading_of_setup at_it (Job.generation_of_setup mine)
      rw [Outline.hearIf_eq, now, BackendState.setStalled_loading]
      exact .inl nofun
    | up r autostart _ _ now =>
      rw [now]
      cases autostart <;> exact .inl nofun
    | discard _ _ _ late =>
      obtain ⟨r, now⟩ := h.loading_of_setup at_it (Job.generation_of_setup mine)
      exact absurd now (late r)
    | discarded here =>
      have past := h.discarding t _ _ _ at_it here
      exact absurd (Job.generation_of_setup mine) (Nat.ne_of_lt past)
    | takeReady withHandler _ _ asked | take withHandler _ asked =>
      cases withHandler <;> cases asked <;> cases mine
    | _ => cases mine

end Loads

lemma Setting.loads (s : Setting) : Loads s.world.outline where
  carried := .ended rfl nofun
  discarding := nofun

/-- The current load is carried by exactly one task in every run. -/
theorem Reaches.loads {s : Setting} {w : World} (run : Reaches s.world w) : Loads w.outline :=
  (run.keeps (P := fun w => Background w.outline ∧ Loads w.outline)
    (fun move h => ⟨h.1.step (Move.step move), h.2.step h.1 (Move.step move)⟩)
    ⟨s.background, s.loads⟩).2

/-! ### Registrations -/

def Event.isRegister : Event → Bool
  | register => true
  | _ => false

/-- How often an instance has been registered. -/
def Outline.registrations (c : Outline) : Nat := c.events.countP Event.isRegister

lemma Deed.registrations {t : TaskId} {o : Owner} {c d : Outline} {x y : Job}
    (deed : Deed t o c x d y) : d.registrations = c.registrations +
      if c.state.phase.Idle ∧ d.state = c.state.beginLoad.2 then 1 else 0 := by
  have unbegun {d : Outline} (events : d.registrations = c.registrations)
      (state : d.state.phase = .registering → d.state.generation = c.state.generation) :
      d.registrations = c.registrations +
        if c.state.phase.Idle ∧ d.state = c.state.beginLoad.2 then 1 else 0 := by
    rw [if_neg, events, Nat.add_zero]
    rintro ⟨idle, begun⟩
    rw [BackendState.beginLoad_of_idle idle] at begun
    have same := state (by rw [begun])
    rw [begun] at same
    exact Nat.succ_ne_self _ same
  cases deed with
  | begin _ _ idle =>
    rw [Outline.begin_eq, BackendState.beginLoad_of_idle idle, if_pos ⟨idle, rfl⟩]
    exact List.countP_cons
  | loadFailed | registered => exact unbegun rfl nofun
  | stalled said =>
    refine unbegun ?_ fun _ => BackendState.setStalled_generation _ _
    cases said with
    | false => rfl
    | true => exact List.countP_cons
  | up r autostart => cases autostart <;> exact unbegun List.countP_cons nofun
  | takeReady withHandler =>
    rw [Outline.take_eq]
    exact unbegun List.countP_cons nofun
  | take withHandler =>
    generalize c.state.phase.registration?.isSome = said
    rw [Outline.take_eq]
    cases said with
    | false => exact unbegun rfl nofun
    | true => exact unbegun List.countP_cons nofun
  | certified | tunnelMade | discard | stopped | dial | hangUp | hungUp | lost =>
    exact unbegun List.countP_cons fun _ => rfl
  | attemptOver | undone =>
    rw [Outline.endAttempt_eq]
    exact unbegun rfl fun _ => rfl
  | connected lasting =>
    rw [Outline.endAttempt_eq, Outline.connect_eq]
    exact unbegun List.countP_cons fun _ => rfl
  | connectedLate lasting =>
    rw [Outline.endAttempt_eq, Outline.connect_eq]
    exact unbegun rfl fun _ => rfl
  | undo lasting =>
    rw [Outline.connect_eq]
    exact unbegun List.countP_cons fun _ => rfl
  | _ => exact unbegun rfl fun _ => rfl

lemma Turned.registrations {t : TaskId} {o : Owner} {c d : Outline} {x y : Job}
    (turned : Turned t o c x d y) : d.registrations = c.registrations +
      if c.state.phase.Idle ∧ d.state = c.state.beginLoad.2 then 1 else 0 := by
  cases turned with
  | once deed => exact deed.registrations
  | andLost _ deed =>
    exact List.countP_cons.trans deed.registrations

lemma Step.registrations {calm : Prop} {c d : Outline} (step : Step calm c d) :
    d.registrations = c.registrations +
      if c.state.phase.Idle ∧ d.state = c.state.beginLoad.2 then 1 else 0 := by
  cases step with
  | turn own turned ending => cases ending <;> exact turned.registrations
  | outside happened =>
    have idle : ¬ (c.state.phase.Idle ∧ c.state = c.state.beginLoad.2) := by
      rintro ⟨idle, same⟩
      rw [BackendState.beginLoad_of_idle idle] at same
      exact Nat.succ_ne_self _ (congrArg BackendState.generation same).symm
    have same : c.registrations = c.registrations +
        if c.state.phase.Idle ∧ c.state = c.state.beginLoad.2 then 1 else 0 := by
      rw [if_neg idle, Nat.add_zero]
    cases happened <;> exact same

namespace World

/-- How often an instance has been registered. -/
def registrations (w : World) : Nat := w.trace.countP fun (_, e) => e.isRegister

lemma outline_registrations (w : World) : w.outline.registrations = w.registrations := by
  unfold Outline.registrations registrations outline
  rw [List.countP_filter, List.countP_map]
  congr 1
  funext ⟨_, e⟩
  cases e <;> rfl

/-! ### Who carries a load -/

/-- A task is in a load of the current generation, on whosever behalf. -/
def LoadsNow (w : World) (t : TaskId) : Prop :=
  ∃ task p, w.schedule.point? t = some task ∧ task.job = .load p ∧
    p.generation = w.state.generation

/-- A task sets up the backend of the current generation. -/
def SetsUpNow (w : World) (t : TaskId) : Prop :=
  ∃ p, w.schedule.point? t = some (.setup p) ∧ p.generation = w.state.generation

variable {w : World} {t : TaskId}

lemma duty_eq_some_iff {due : Duty × Nat} : (w.outline.job t).duty = some due ↔
    ∃ task, w.schedule.point? t = some task ∧ task.job.duty = some due := by
  cases here : w.schedule.point? t with
  | none =>
    rw [show w.outline.job t = .rest from congrArg jobOf here]
    simp [Job.duty]
  | some task =>
    rw [outline_job here]
    simp

lemma loadsNow_iff :
    w.LoadsNow t ↔ (w.outline.job t).duty = some (.load, w.state.generation) := by
  rw [duty_eq_some_iff]
  simp only [LoadsNow, Job.duty_eq_load_iff, exists_and_left]

lemma setsUpNow_iff :
    w.SetsUpNow t ↔ (w.outline.job t).duty = some (.setup, w.state.generation) := by
  rw [duty_eq_some_iff]
  simp only [Job.duty_eq_setup_iff]
  constructor
  · rintro ⟨p, here, current⟩
    exact ⟨.setup p, here, p, rfl, current⟩
  · rintro ⟨task, here, p, job, current⟩
    exact ⟨p, Task.eq_setup_of_job job ▸ here, current⟩

end World

/-! ### Moving on -/

/-- In this move nobody but the task takes a turn, and nobody asks for anything: time passes, TLS
contexts are built, and the host's runtime gets ready. -/
def Move.LeavesTo (t : TaskId) : Move → Prop
  | turn u => u = t
  | build => True
  | time _ => True
  | host runtimeReady _ => runtimeReady = true
  | _ => False

/-- Some moves that leave everything to a task lead from one world to another. -/
def LeadsTo (t : TaskId) (w w' : World) : Prop :=
  ∃ moves, w.after? moves = some w' ∧ ∀ m ∈ moves, m.LeavesTo t

namespace LeadsTo

variable {t : TaskId} {w w' w'' : World}

lemma refl (w : World) : LeadsTo t w w := ⟨[], rfl, fun _ there => absurd there List.not_mem_nil⟩

lemma trans (run : LeadsTo t w w') (more : LeadsTo t w' w'') : LeadsTo t w w'' := by
  obtain ⟨moves, run, leave⟩ := run
  obtain ⟨rest, more, leave'⟩ := more
  refine ⟨moves ++ rest, by rw [after?_append, run]; exact more, fun m there => ?_⟩
  exact (List.mem_append.1 there).elim (leave m) (leave' m)

lemma move {m : Move} (leaves : m.LeavesTo t) (move : m.outcome? w = some w') : LeadsTo t w w' := by
  refine ⟨[m], by rw [World.after?, move]; rfl, fun m' there => ?_⟩
  exact List.mem_singleton.1 there ▸ leaves

lemma reaches (run : LeadsTo t w w') : Reaches w w' :=
  let ⟨moves, run, _⟩ := run
  ⟨moves, run⟩

end LeadsTo

namespace World

variable {w : World} {t : TaskId}

/-- The task can move the state on by its own turns. -/
def MovesOn (w : World) (t : TaskId) : Prop := ∃ w', LeadsTo t w w' ∧ w'.state ≠ w.state

lemma leadsTo_no_builds (w : World) : ∃ w', LeadsTo t w w' ∧ w'.state = w.state ∧
    w'.schedule.point? t = w.schedule.point? t ∧ w'.builds = [] := by
  generalize some_builds : w.builds = builds
  induction builds generalizing w with
  | nil => exact ⟨w, .refl w, rfl, rfl, some_builds⟩
  | cons u rest ih =>
    have build : Move.build.outcome? w = some ({ w with builds := rest }.wake u) := by
      rw [Move.outcome?, finishBuild?, some_builds]
    have woken : ({ w with builds := rest }.wake u : World) = { w with
        builds := rest
        schedule := { w.schedule with queue := (w.schedule.wake u).queue } } :=
      congrArg (fun s => { w with builds := rest, schedule := s }) (w.schedule.wake_eq u)
    rw [woken] at build
    obtain ⟨w', run, state, point, empty⟩ := ih { w with
        builds := rest
        schedule := { w.schedule with queue := (w.schedule.wake u).queue } } rfl
    exact ⟨w', (LeadsTo.move (m := .build) trivial build).trans run, state, point, empty⟩

/-- Who has a duty waits for nobody else, and gets a turn. -/
lemma leadsTo_ready {task : Task} (here : w.schedule.point? t = some task)
    (duty : task.job.duty ≠ none) : ∃ w', LeadsTo t w w' ∧ w'.state = w.state ∧
      w'.schedule.point? t = some task ∧ w'.ready t task = true ∧ w'.runtimeReady = true := by
  -- The runtime gets ready last: nothing else that happens here depends on it.
  have hosted (w' : World) (run : LeadsTo t w w') (state : w'.state = w.state)
      (here : w'.schedule.point? t = some task) (ready : w'.arrived t task.wait = true) :
      ∃ w', LeadsTo t w w' ∧ w'.state = w.state ∧ w'.schedule.point? t = some task ∧
        w'.ready t task = true ∧ w'.runtimeReady = true :=
    ⟨{ w' with runtimeReady := true, autostart := w'.autostart },
      run.trans (.move (m := .host true w'.autostart) rfl rfl), state, here,
      Bool.or_eq_true_iff.2 (.inl ready), rfl⟩
  have timed (due : Nat) (wait : task.wait = .time due) :
      ∃ w', LeadsTo t w w' ∧ w'.state = w.state ∧ w'.schedule.point? t = some task ∧
        w'.ready t task = true ∧ w'.runtimeReady = true := by
    refine hosted _ (.move (m := .time (max w.now due)) trivial (if_pos (Nat.le_max_left ..))) rfl
      here ?_
    rw [wait]
    exact decide_eq_true (Nat.le_max_right w.now due)
  cases job : task.job with
  | load p =>
    obtain ⟨due, wait⟩ := Task.wait_of_load job
    exact timed due wait
  | setup p =>
    obtain rfl := Task.eq_setup_of_job job
    obtain ⟨g, r, step⟩ := p
    cases step with
    | start => exact hosted w (.refl w) rfl here rfl
    | build =>
      obtain ⟨w', run, state, point, empty⟩ := w.leadsTo_no_builds (t := t)
      refine hosted w' run state (point.trans here) (decide_eq_true ?_)
      rw [empty]
      exact List.not_mem_nil
    | _ => exact timed _ rfl
  | _ => exact absurd (congrArg Job.duty job) duty

lemma movesOn_of_duty {s : Setting} {k : Duty} (run : Reaches s.world w)
    (mine : (w.outline.job t).duty = some (k, w.state.generation)) : w.MovesOn t := by
  -- With every turn that leaves the state as it is, fewer points are left.
  induction left : (w.outline.job t).rank using Nat.strongRecOn generalizing w with
  | ind n ih =>
    obtain ⟨task, here, mine⟩ := duty_eq_some_iff.1 mine
    rw [outline_job here] at left
    obtain ⟨v, lead, state, here, ready, there⟩ :=
      leadsTo_ready here (Option.ne_none_iff_exists'.2 ⟨_, mine⟩)
    unfold MovesOn
    rw [← state] at mine ⊢
    have turn : (Move.turn t).outcome? v = some (Cooperative.advance t task v) := by
      rw [Move.outcome?, here]
      exact if_pos ready
    obtain ⟨task', d, y, here', turned, ending⟩ := turn_cases turn
    cases here.symm.trans here'
    have run := run.trans lead.reaches
    have led := lead.trans (.move (m := .turn t) rfl turn)
    rcases run.loads.closer run.background
      (outline_owner here) (outline_job here) mine there turned with moved | ⟨still, duty, closer⟩
    · exact ⟨_, led, fun same => moved (ending.state.symm.trans same)⟩
    · have after : (Cooperative.advance t task v).state = v.state := ending.state.trans still
      obtain ⟨w', more, moved⟩ := ih y.rank (left ▸ closer) (run.trans (.move turn))
        (by rw [ending.job, duty, after]; rfl) (congrArg Job.rank ending.job)
      exact ⟨w', led.trans more, after ▸ moved⟩

end World

/-- **Exactly one task carries a load.** An instance registers if and only if exactly one load
works for the current generation, and a backend loads if and only if exactly one setup does, and
either can move the state on by its own turns. Each load that begins registers an instance once, and
nobody registers one otherwise. -/
theorem one_task_carries_load {s : Setting} {w : World} (run : Reaches s.world w) :
    (w.state.phase = .registering ↔ ∃! t, w.LoadsNow t) ∧
      ((∃ r, w.state.phase = .loading r) ↔ ∃! t, w.SetsUpNow t) ∧
      (∀ t, w.LoadsNow t ∨ w.SetsUpNow t → w.MovesOn t) ∧
      ∀ (m : Move) (w' : World), m.outcome? w = some w' →
        w'.registrations = w.registrations + if w.BeginsLoad w' then 1 else 0 := by
  have carried := run.loads.carried
  have one (k : Duty) : dutyOf w.state = some (k, w.state.generation) ↔
      ∃! t, (w.outline.job t).duty = some (k, w.state.generation) := by
    constructor
    · intro waits
      obtain ⟨t, mine⟩ := carried.someone k _ waits
      exact ⟨t, mine, fun u theirs => carried.alone u t k theirs mine⟩
    · rintro ⟨t, mine, -⟩
      exact carried.due t k mine
  refine ⟨?_, ?_, ?_, ?_⟩
  · simp only [World.loadsNow_iff, ← one]
    unfold dutyOf
    cases w.state.phase <;> simp
  · simp only [World.setsUpNow_iff, ← one]
    unfold dutyOf
    cases w.state.phase <;> simp
  · rintro t (load | setup)
    · exact World.movesOn_of_duty run (World.loadsNow_iff.1 load)
    · exact World.movesOn_of_duty run (World.setsUpNow_iff.1 setup)
  · intro m w' move
    rw [← World.outline_registrations, ← World.outline_registrations]
    exact (Move.step move).registrations

/-- Once the first backend is being registered, somebody carries its load and can move it on. -/
theorem firstBackend_is_carried : ∃ w : World,
    ({} : Setting).world.after? (firstBackend.take 2) = some w ∧
      (∃! t, w.LoadsNow t) ∧ ∀ t, w.LoadsNow t → w.MovesOn t := by
  have seen : (({} : Setting).world.after? (firstBackend.take 2)).map (fun w => w.state.phase) =
      some .registering := rfl
  obtain ⟨w, run, registering⟩ := Option.map_eq_some_iff.1 seen
  obtain ⟨load, -, movesOn, -⟩ := one_task_carries_load ⟨_, run⟩
  exact ⟨w, run, load.1 registering, fun t mine => movesOn t (.inl mine)⟩

end TunnelKeeper.Coordinator
