import TunnelKeeper.Proofs.Office

/-!
Which certificates are served. A load throws a certificate for another domain away before it leaves
the rest to setup. So one is on file when a tunnel is created only if throwing it away has failed, or
if the authority has issued it.
-/

namespace TunnelKeeper

/-- A certificate names another domain than this one. -/
def Certificate.isForeign (certificate : Certificate) (domain : String) : Bool :=
  certificate.commonName ≠ "" ∧ certificate.commonName ≠ domain

end TunnelKeeper

namespace TunnelKeeper.Coordinator

open World Cooperative

/-! ### Certificates for other domains -/

/-- The certificate that is on file for a load cycle names another domain. -/
def Office.isForeign (o : Office) (r : CycleId) : Bool :=
  (o.files[r]?).any fun file => file.2.any (·.isForeign file.1.domain)

/-- The authority's current certificate names another domain than that of the load cycle. -/
def World.hasForeignCertificate (w : World) (r : CycleId) : Bool :=
  (w.certificate? r).any (·.isForeign (w.domain r))

lemma World.isForeign_office (w : World) (r : CycleId) :
    w.office.isForeign r = w.hasForeignCertificate r := by
  unfold Office.isForeign hasForeignCertificate certificate? World.domain cycle?
  simp only [office, List.getElem?_map]
  cases w.cycles[r]? with
  | none => rfl
  | some cycle => rfl

lemma Office.isForeign_enroll {o : Office} {identity : InstanceIdentity} {r : CycleId}
    (foreign : (o.enroll identity).isForeign r = true) : o.isForeign r = true := by
  simp only [isForeign, enroll, List.getElem?_append] at foreign ⊢
  split at foreign
  · exact foreign
  · simp [List.getElem?_singleton] at foreign
    split at foreign <;> simp at foreign

lemma World.isForeign_certify {w : World} {r r' : CycleId} {certificate : Option Certificate}
    (foreign : (w.office.certify r' certificate).isForeign r = true) :
    r' ≠ r ∧ w.hasForeignCertificate r = true ∨
      r' = r ∧ certificate.any (·.isForeign (w.domain r)) = true := by
  rw [← w.isForeign_office]
  simp only [Office.isForeign, Office.certify, List.getElem?_modify] at foreign ⊢
  by_cases here : r' = r
  · refine .inr ⟨here, ?_⟩
    subst here
    simp only [office, List.getElem?_map] at foreign
    unfold World.domain cycle?
    cases file : w.cycles[r']? with
    | none => simp [file] at foreign
    | some cycle => simpa [file, LoadCycle.file] using foreign
  · exact .inl ⟨here, by simpa [here] using foreign⟩

/-! ### What becomes of the files -/

namespace Chore

variable {w : World} {task : Task} {o : Office} {y : Job} {r : CycleId}

/-- A certificate for another domain has been on file before, or it has just been issued or loaded. -/
lemma foreign_cases (chore : Chore w task o y) (foreign : o.isForeign r = true) :
    w.hasForeignCertificate r = true ∨
      (∃ issue, task.issue? = some (r, issue) ∧
        (w.issuedNow r issue).isForeign (w.domain r) = true) ∨
      ∃ g call, task.job = .load (.certificate g r call) := by
  have same (foreign : w.office.isForeign r = true) : w.hasForeignCertificate r = true := by
    rwa [w.isForeign_office] at foreign
  cases chore with
  | apart | unchecked | dial | ask | renew => exact .inl (same foreign)
  | enroll => exact .inl (same (Office.isForeign_enroll foreign))
  | load job =>
    rcases isForeign_certify foreign with ⟨-, before⟩ | ⟨rfl, -⟩
    · exact .inl before
    · exact .inr (.inr ⟨_, _, job⟩)
  | wrong job loaded =>
    rcases loaded with rfl | rfl
    · exact .inl (same foreign)
    · rcases isForeign_certify foreign with ⟨-, before⟩ | ⟨rfl, -⟩
      · exact .inl before
      · exact .inr (.inr ⟨_, _, job⟩)
  | reset =>
    rcases isForeign_certify foreign with ⟨-, before⟩ | ⟨-, none⟩
    · exact .inl before
    · cases none
  | issued mine =>
    rcases isForeign_certify foreign with ⟨-, before⟩ | ⟨rfl, wrong⟩
    · exact .inl before
    · exact .inr (.inl ⟨_, mine, wrong⟩)
  | certified _ mine =>
    rcases isForeign_certify foreign with ⟨-, before⟩ | ⟨rfl, wrong⟩
    · exact .inl before
    · exact .inr (.inl ⟨_, mine, wrong⟩)

lemma length_le (chore : Chore w task o y) : w.cycles.length ≤ o.files.length := by
  cases chore with
  | wrong _ loaded =>
    rcases loaded with rfl | rfl <;> simp [Office.order, Office.certify]
  | _ => simp [Office.order, Office.certify, Office.enroll]

lemma case_cases (chore : Chore w task o y) (case : y.case? = some r) :
    task.job.case? = some r ∨ r = w.cycles.length ∧ r < o.files.length := by
  cases chore with
  | apart same | unchecked same | issued _ same | certified _ _ _ same => exact .inl (same r case)
  | enroll =>
    obtain rfl := Option.some.inj case
    right
    simp [Office.order, Office.enroll]
  | wrong job =>
    rw [job]
    exact .inl case
  | load | reset | dial | ask | renew => cases case

end Chore

/-! ### Everybody has a file of their own -/

/-- Loads and setups have a file each, and no two have the same. -/
structure World.Filed (w : World) : Prop where
  known : ∀ t r, (w.outline.job t).case? = some r → r < w.cycles.length
  alone : ∀ t u r, (w.outline.job t).case? = some r → (w.outline.job u).case? = some r → t = u

variable {m : Move} {w w' : World} {t u : TaskId} {r : CycleId}

lemma Move.cycles_le (move : m.outcome? w = some w') : w.cycles.length ≤ w'.cycles.length := by
  rw [← w'.length_files]
  rcases Move.chore move with ⟨t, task, -, -, chore⟩ | ⟨-, same⟩
  · exact chore.length_le
  · exact Nat.le_of_eq (by rw [same, w.length_files])

/-- A load or a setup has had its file before, or it has just opened it, or it has it from the load
that has left the rest to it. -/
lemma Move.case_before (back : Background w.outline) (move : m.outcome? w = some w')
    (case : (w'.outline.job u).case? = some r) : (w.outline.job u).case? = some r ∨
      (m = .turn u ∧ r = w.cycles.length ∧ r < w'.cycles.length) ∨
      ∃ t p, m = .turn t ∧ w.HandsOver t u p w' ∧ p.cycle = r := by
  by_cases mine : m = .turn u
  · rcases Move.chore move with ⟨t, task, turn, here, chore⟩ | ⟨other, -⟩
    · cases mine.symm.trans turn
      rcases chore.case_cases case with before | ⟨new, opened⟩
      · rw [outline_job here]
        exact .inl before
      · rw [w'.length_files] at opened
        exact .inr (.inl ⟨mine, new, opened⟩)
    · exact absurd mine (other u)
  · rcases Move.job_cases back move mine with
      same | rest | ⟨operation, asked⟩ | ⟨t, p, turn, handed, setup⟩
    · rw [same] at case
      exact .inl case
    · rw [rest] at case
      cases case
    · rw [asked] at case
      cases operation <;> cases case
    · rw [setup] at case
      exact .inr (.inr ⟨t, p, turn, handed, Option.some.inj case⟩)

/-! ### What a load leaves to setup -/

/-- A load comes to know in this turn that a certificate for another domain could not be thrown away,
and its generation is current. -/
def Job.failsReset (r : CycleId) (w : World) : Job → Bool
  | load (.reset g r' ⟨_, .error _⟩) => r' = r ∧ w.state.IsCurrent g
  | _ => false

/-- A load that was registering leaves the rest to setup only if its certificate is for its domain, or
throwing it away has failed. -/
def LoadPoint.Leaves (q : LoadPoint) (w v : World) : Prop :=
  ∀ g r, w.state.phase = .registering → v.state = ⟨g, .loading r⟩ → q.case? = some r ∧
    (v.hasForeignCertificate r = false ∨ (Job.load q).failsReset r w = true)

namespace LoadPoint.Leaves

variable {q : LoadPoint} {v v' : World}

lemma of_state (same : v.state = w.state) : q.Leaves w v := by
  intro g r registering loading
  rw [← same, loading] at registering
  cases registering

lemma of_fail {g : Nat} {e : BackendError} (same : v.state = w.state) :
    q.Leaves w (Load.fail g e v).1 := by
  by_cases registering : v.state = ⟨g, .registering⟩
  · have absent : (Load.fail g e v).1.state = ⟨g, .absent⟩ :=
      (congrArg (BackendState.abandon · g) registering).trans BackendState.abandon_registering
    intro g' r _ loading
    cases absent.symm.trans loading
  · exact .of_state ((BackendState.abandon_of_ne registering).trans same)

lemma of_complete {g : Nat} (case : q.case? = some r) (same : v.state = w.state)
    (fits : w.state.IsCurrent g →
      v.hasForeignCertificate r = false ∨ (Job.load q).failsReset r w = true) :
    q.Leaves w (Load.complete g r v).1 := by
  by_cases registering : v.state = ⟨g, .registering⟩
  · have current : w.state.IsCurrent g := by
      rw [← same, registering]
      rfl
    have complete : (Load.complete g r v).1.state = ⟨g, .loading r⟩ := by
      unfold Load.complete
      rw [registering, BackendState.setLoading_registering]
      rfl
    intro g' r' _ loading
    cases complete.symm.trans loading
    rw [← isForeign_office, (Load.touches_complete v g r).office rfl, isForeign_office]
    exact ⟨case, fits current⟩
  · refine .of_state (Eq.trans ?_ same)
    unfold Load.complete
    rw [BackendState.setLoading_of_ne r registering]

/-- A certificate for another domain is not left to setup before the authority has been asked to throw
it away. -/
lemma of_certificate {g : Nat} (case : q.case? = some r) (same : v.state = w.state) :
    q.Leaves w (Load.certificateLoaded g r v).1 := by
  unfold Load.certificateLoaded
  split
  · split
    · next none =>
      refine .of_complete case same fun _ => .inl ?_
      rw [hasForeignCertificate, none]
      rfl
    · next certificate there =>
      split
      · exact .of_state same
      · next own =>
        refine .of_complete case same fun _ => .inl ?_
        rw [hasForeignCertificate, there, Option.any_some, Certificate.isForeign]
        exact decide_eq_false own
  · exact .of_state same

lemma of_resume (q : LoadPoint) (w : World) : q.Leaves w (Load.resume q w).1 := by
  cases q with
  | register g call deadline =>
    unfold Load.resume
    dsimp only
    split
    · split
      · unfold Load.registered
        split
        · exact .of_fail rfl
        · split <;> exact .of_state rfl
      · exact .of_fail rfl
    · exact .of_fail rfl
  | certificate g r call =>
    unfold Load.resume
    dsimp only
    split <;> exact .of_certificate rfl rfl
  | reset g r call =>
    obtain ⟨due, answer⟩ := call
    have settled {v : World} (same : v.state = w.state) (fits : w.state.IsCurrent g →
        v.hasForeignCertificate r = false ∨
          (Job.load (.reset g r ⟨due, answer⟩)).failsReset r w = true) :
        LoadPoint.Leaves (.reset g r ⟨due, answer⟩) w
          (if v.state.IsCurrent g then Load.complete g r v else (v, .done ())).1 := by
      split
      · exact .of_complete rfl same fits
      · exact .of_state same
    cases answer with
    | ok _ =>
      refine settled rfl fun _ => .inl ?_
      rw [← isForeign_office]
      refine Bool.eq_false_iff.2 fun foreign => ?_
      rw [office_resetArrived] at foreign
      rcases isForeign_certify foreign with ⟨other, -⟩ | ⟨-, none⟩
      · exact other rfl
      · cases none
    | error e => exact settled rfl fun current => .inr (decide_eq_true ⟨rfl, current⟩)

end LoadPoint.Leaves

/-! ### The turn of a load -/

/-- What loads are about. -/
def World.standing (w : World) : State × Office := (w.state, w.office)

lemma LoadPoint.Leaves.congr {q : LoadPoint} {v v' : World} (h : q.Leaves w v)
    (same : v'.standing = v.standing) : q.Leaves w v' := by
  obtain ⟨state, office⟩ := Prod.mk.inj same
  intro g r registering loading
  rw [← isForeign_office, office, isForeign_office]
  exact h g r registering (state.symm.trans loading)

lemma Handler.standing_checking (turn : Turn CheckPoint CertificateCheck) :
    (checking turn).1.standing = turn.1.standing := by
  obtain ⟨v, _ | _ | _⟩ := turn
  · rfl
  · show (night v).1.standing = v.standing
    unfold night
    dsimp only
    split <;> rfl
  · rfl

lemma Task.standing_report {P R : Type} (entry : Nat) (point : P → Task) (result : R → Result)
    (turn : Turn P R) : (report entry point result turn).1.standing = turn.1.standing := by
  obtain ⟨v, _ | _ | _⟩ := turn <;> rfl

lemma Check.resume_of_load {p : CheckPoint} {q : LoadPoint} (job : p.job = .load q) (w : World) :
    (resume p w).1 = (Load.resume q w).1 := by
  cases p with
  | load p | reload p =>
    cases job
    exact loading_fst _ _ _
  | _ => cases job

/-- Whoever is in the middle of a load goes on with it, but for a handler that has been cancelled. -/
lemma Task.standing_of_load (t : TaskId) {task : Task} {q : LoadPoint} (job : task.job = .load q)
    (w : World) : (resume t task w).1.standing = w.standing ∨
      (resume t task w).1.standing = (Load.resume q w).1.standing := by
  cases task with
  | load entry p =>
    cases job
    exact .inr (standing_report ..)
  | check entry p =>
    exact .inr ((standing_report ..).trans (congrArg World.standing (Check.resume_of_load job w)))
  | detachedLoad p =>
    cases job
    exact .inr (congrArg World.standing (goOn_fst ..))
  | handler p =>
    have same : (resume t (.handler p) w).1 = (Handler.resume t p w).1 := goOn_fst ..
    rw [same]
    cases p with
    | check p =>
      unfold Handler.resume
      dsimp only
      split
      · exact .inl rfl
      · right
        rw [Handler.standing_checking, Check.resume_of_load job w]
    | _ => cases job
  | asked entry operation => cases operation <;> cases job
  | guard g p => cases p <;> cases job
  | _ => cases job

/-- The load that leaves the rest to setup has the file, and unless it has failed to throw the
certificate away, that is for its domain. -/
lemma World.HandsOver.leaves {p : SetupPoint} (handed : w.HandsOver t u p w')
    (turn : (Move.turn t).outcome? w = some w') : (w.outline.job t).case? = some p.cycle ∧
      (w'.hasForeignCertificate p.cycle = false ∨
        (w.outline.job t).failsReset p.cycle w = true) := by
  obtain ⟨q, load⟩ := handed.load
  obtain ⟨task, here, -, rfl⟩ := exists_of_turn turn
  have job : task.job = .load q := (outline_job here).symm.trans load
  have advanced : (advance t task w).standing = (Task.resume t task w).1.standing := by
    rw [advance_eq]
    rfl
  have leaves : q.Leaves w (advance t task w) := by
    rcases Task.standing_of_load t job w with same | same
    · exact .of_state (congrArg Prod.fst (advanced.trans same))
    · exact (LoadPoint.Leaves.of_resume q w).congr (advanced.trans same)
  rw [load]
  exact leaves _ _ (congrArg BackendState.phase handed.registering) handed.loading

/-! ### Loads and setups keep their files -/

namespace World.Filed

lemma gone (h : w.Filed) {v : TaskId} {p : SetupPoint} (turn : (Move.turn v).outcome? w = some w')
    (handed : w.HandsOver v u p w') (before : (w.outline.job t).case? = some p.cycle) :
    (w'.outline.job t).case? ≠ some p.cycle := by
  obtain rfl := h.alone t v p.cycle before (handed.leaves turn).1
  rw [handed.rest]
  exact nofun

lemma step (h : w.Filed) (back : Background w.outline) (move : m.outcome? w = some w') :
    w'.Filed := by
  have longer := Move.cycles_le move
  -- A file that has just been opened is nobody else's.
  have old {t : TaskId} {r : CycleId} (before : (w.outline.job t).case? = some r) :
      r ≠ w.cycles.length := Nat.ne_of_lt (h.known t r before)
  constructor
  · intro u r case
    rcases Move.case_before back move case with before | ⟨-, -, opened⟩ | ⟨t, p, rfl, handed, rfl⟩
    · exact Nat.lt_of_lt_of_le (h.known u r before) longer
    · exact opened
    · exact Nat.lt_of_lt_of_le (h.known t p.cycle (handed.leaves move).1) longer
  · intro t u r mine theirs
    rcases Move.case_before back move mine with
      before | ⟨turn, new, -⟩ | ⟨v, p, rfl, handed, rfl⟩
    · rcases Move.case_before back move theirs with
        before' | ⟨-, new, -⟩ | ⟨v, p, rfl, handed, rfl⟩
      · exact h.alone t u r before before'
      · exact absurd new (old before)
      · exact absurd mine (h.gone move handed before)
    · rcases Move.case_before back move theirs with
        before' | ⟨turn', -⟩ | ⟨v, p, rfl, handed, rfl⟩
      · exact absurd new (old before')
      · exact Move.turn.inj (turn.symm.trans turn')
      · exact absurd new (old (handed.leaves move).1)
    · rcases Move.case_before back move theirs with
        before' | ⟨-, new, -⟩ | ⟨v', p', -, handed', -⟩
      · exact absurd theirs (h.gone move handed before')
      · exact absurd new (old (handed.leaves move).1)
      · rw [handed.new, handed'.new]

end World.Filed

lemma Setting.filed (s : Setting) : s.world.Filed := ⟨nofun, nofun⟩

/-! ### Certificates that are served -/

/-- In this move, a load comes to know that a certificate for another domain could not be thrown
away. -/
def Move.failsReset (r : CycleId) (m : Move) (w : World) : Bool :=
  match m with
  | turn t => (w.outline.job t).failsReset r w
  | _ => false

/-- In this move, a certificate for another domain arrives that the authority has issued. -/
def Move.issuesForeign (r : CycleId) (m : Move) (w : World) : Bool :=
  match m with
  | turn t => (w.schedule.point? t).any fun task => task.issue?.any fun (r', issue) =>
      r' = r ∧ (w.issuedNow r issue).isForeign (w.domain r) = true
  | _ => false

/-- A registration is being set up with a certificate for another domain. -/
def World.ServesForeign (r : CycleId) (w : World) : Prop :=
  w.hasForeignCertificate r = true ∧ ∃ t p, w.outline.job t = .setup p ∧ p.cycle = r

/-- Nobody but the authority brings in a certificate for another domain while a registration is set
up. -/
lemma Move.foreign_before (filed : w.Filed) (move : m.outcome? w = some w') {p : SetupPoint}
    (at_it : w.outline.job t = .setup p) (foreign : w'.hasForeignCertificate p.cycle = true) :
    w.hasForeignCertificate p.cycle = true ∨ m.issuesForeign p.cycle w = true := by
  rw [← isForeign_office] at foreign
  rcases Move.chore move with ⟨u, task, rfl, here, chore⟩ | ⟨-, same⟩
  · rcases chore.foreign_cases foreign with before | ⟨issue, mine, wrong⟩ | ⟨g, call, load⟩
    · exact .inl before
    · right
      simp [issuesForeign, here, mine, wrong]
    · -- The load that is about the same registration would have to be the setup.
      have load := (outline_job here).trans load
      obtain rfl := filed.alone t u p.cycle (by rw [at_it]; rfl) (by rw [load]; rfl)
      cases at_it.symm.trans load
  · rw [same, isForeign_office] at foreign
    exact .inl foreign

lemma World.ServesForeign.before (back : Background w.outline) (filed : w.Filed)
    (move : m.outcome? w = some w') (now : w'.ServesForeign r) :
    w.ServesForeign r ∨ m.failsReset r w = true ∨ m.issuesForeign r w = true := by
  obtain ⟨foreign, u, p, after, rfl⟩ := now
  have kept {t : TaskId} {q : SetupPoint} (before : w.outline.job t = .setup q)
      (cycle : q.cycle = p.cycle) : w.ServesForeign p.cycle ∨
        m.failsReset p.cycle w = true ∨ m.issuesForeign p.cycle w = true := by
    rw [← cycle] at foreign ⊢
    rcases Move.foreign_before filed move before foreign with before' | issued
    · exact .inl ⟨before', t, q, before, rfl⟩
    · exact .inr (.inr issued)
  rcases Move.setup_before back move after with before | ⟨t, rfl, handed⟩ | ⟨-, q, d, before, deed⟩
  · exact kept before rfl
  · rcases (handed.leaves move).2 with own | failed
    · cases own.symm.trans foreign
    · exact .inr (.inl failed)
  · obtain ⟨q', same, -, cycle⟩ := deed.fits
    cases same
    exact kept before cycle

/-! ### Tunnels that are created -/

def Event.creation? : Event → Option (TunnelId × TunnelParams)
  | createTunnel n params => some (n, params)
  | _ => none

/-- The tunnels that have been created, the latest first. -/
def World.creations (w : World) : List (TunnelId × TunnelParams) :=
  w.orders.filterMap Event.creation?

lemma Chore.creations_cases {task : Task} {o : Office} {y : Job} (chore : Chore w task o y) :
    o.orders.filterMap Event.creation? = w.creations ∨
      ∃ p, task = .setup p ∧ p.step = .build (.ok ()) ∧ o.orders.filterMap Event.creation? =
        (w.tunnels.length, ⟨w.relay p.cycle, w.config.relayPort⟩) :: w.creations := by
  cases chore with
  | wrong _ loaded =>
    rcases loaded with rfl | rfl <;> exact .inl rfl
  | unchecked =>
    cases job : task.job with
    | setup p =>
      obtain ⟨g, r, step⟩ := p
      rw [Job.unchecked, SetupPoint.unchecked]
      dsimp only
      split
      · refine .inl (List.filterMap_cons_none ?_)
        split <;> rfl
      · exact .inr ⟨_, Task.eq_setup_of_job job, rfl, rfl⟩
      · exact .inl rfl
    | attempt a =>
      rw [Job.unchecked, Attempt.unchecked]
      split <;> exact .inl rfl
    | _ => exact .inl rfl
  | _ => exact .inl rfl

/-- **A tunnel is created for a certificate of its own domain.** When a tunnel is created, setup of a
registration makes it, and the certificate on file names the registered domain or none; unless the
authority has issued one for another domain, or has failed to throw such a one away when that
registration was loaded. -/
theorem tunnel_is_created_for_own_certificate {s : Setting} {moves : List Move} {m : Move}
    {w w' : World} (run : s.world.after? moves = some w) (move : m.outcome? w = some w') :
    w'.creations = w.creations ∨ ∃ r, m.Makes r w.tunnels.length w ∧
      w'.creations = (w.tunnels.length, ⟨w.relay r, w.config.relayPort⟩) :: w.creations ∧
      (w.hasForeignCertificate r = false ∨
        s.world.Sometime (fun m v _ => m.failsReset r v = true) moves ∨
        s.world.Sometime (fun m v _ => m.issuesForeign r v = true) moves) := by
  rcases Move.chore move with ⟨t, task, rfl, here, chore⟩ | ⟨-, same⟩
  · refine chore.creations_cases.imp_right ?_
    rintro ⟨p, rfl, built, created⟩
    refine ⟨p.cycle, ⟨t, p, rfl, here, built, rfl, rfl⟩, created, ?_⟩
    cases foreign : w.hasForeignCertificate p.cycle with
    | false => exact .inl rfl
    | true =>
      have serves : w.ServesForeign p.cycle := ⟨foreign, t, p, outline_job here, rfl⟩
      right
      refine World.Sometime.or (World.sometime_of (R := World.ServesForeign p.cycle)
        (I := fun v => Background v.outline ∧ v.Filed)
        (fun move h => ⟨h.1.step (Move.step move), h.2.step h.1 move⟩)
        (fun move h now => now.before h.1 h.2 move) run ⟨s.background, s.filed⟩ ?_ serves)
      rintro ⟨-, u, q, at_it, -⟩
      cases at_it
  · left
    exact congrArg (fun o => o.orders.filterMap Event.creation?) same

/-- There is a certificate in store, and it is for another domain. -/
def Setting.strayCertificate : Setting where
  storage := some ⟨"other.example", .ofUnixMillis 8640000000, "f0"⟩

/-- The certificate in store is thrown away, and one for the own domain is issued. -/
def loadedAstray : List Move :=
  [.ask .load, .turn 0, .turn 1, .turn 0, .turn 0, .turn 0, .turn 2, .turn 2, .turn 2, .build]

/-- When the tunnel is created, the certificate is not the one that was in store. -/
theorem stray_certificate_is_replaced : ∃ w w' : World,
    Setting.strayCertificate.world.after? loadedAstray = some w ∧
      (Move.turn 2).outcome? w = some w' ∧ w'.creations ≠ w.creations ∧
      (w.certificate? 0).isSome = true ∧ w.hasForeignCertificate 0 = false := by
  have seen : (Setting.strayCertificate.world.after? loadedAstray).bind (fun w =>
      ((Move.turn 2).outcome? w).map fun w' =>
        (w.creations, w'.creations.length, w.outline.job 2, (w.certificate? 0).isSome)) =
      some ([], 1, .setup ⟨1, 0, .build (.ok ())⟩, true) := rfl
  have thrown : ¬ Setting.strayCertificate.world.Sometime
      (fun m v _ => m.failsReset 0 v = true) loadedAstray := by
    decide +kernel
  have own : ¬ Setting.strayCertificate.world.Sometime
      (fun m v _ => m.issuesForeign 0 v = true) loadedAstray := by
    decide +kernel
  obtain ⟨w, run, seen⟩ := Option.bind_eq_some_iff.1 seen
  obtain ⟨w', turn, seen⟩ := Option.map_eq_some_iff.1 seen
  simp only [Prod.mk.injEq] at seen
  obtain ⟨before, after, at_it, there⟩ := seen
  have created : w'.creations ≠ w.creations := by
    intro same
    rw [same, before] at after
    cases after
  refine ⟨w, w', run, turn, created, there, ?_⟩
  rcases tunnel_is_created_for_own_certificate run turn with same | ⟨r, makes, -, fits⟩
  · exact absurd same created
  · obtain ⟨t, p, same, here, -, rfl, -⟩ := makes
    cases same
    cases (outline_job here).symm.trans at_it
    rcases fits with fits | failed | issued
    · exact fits
    · exact absurd failed thrown
    · exact absurd issued own

/-- And it cannot be thrown away. -/
def Setting.stuckCertificate : Setting :=
  { Setting.strayCertificate with
    scripts := { reset :=
      { entries := [{ answer := .error (.io "locked") }], usual := .ok () } } }

/-- The backend is loaded all the same. -/
def loadedWithStuck : List Move :=
  [.ask .load, .turn 0, .turn 1, .turn 0, .turn 0, .turn 0, .turn 2, .turn 2, .build]

/-- Then a tunnel is created while the certificate of another domain is on file. -/
theorem tunnel_is_created_for_stuck_certificate : ∃ (w w' : World) (c : Certificate),
    Setting.stuckCertificate.world.after? loadedWithStuck = some w ∧
      (Move.turn 2).outcome? w = some w' ∧ (Move.turn 2).Makes 0 0 w ∧
      w'.creations = [(0, ⟨"relay1", 443⟩)] ∧ w.creations = [] ∧ w.certificate? 0 = some c ∧
      c.commonName = "other.example" ∧ w.domain 0 = "abc.example" := by
  have seen : (Setting.stuckCertificate.world.after? loadedWithStuck).bind (fun w =>
      ((Move.turn 2).outcome? w).map fun w' =>
        (w.outline.job 2, w.tunnels.length, w'.creations, w.creations,
          (w.certificate? 0).map (·.commonName), w.domain 0)) =
      some (.setup ⟨1, 0, .build (.ok ())⟩, 0, [(0, ⟨"relay1", 443⟩)], [], some "other.example",
        "abc.example") := rfl
  obtain ⟨w, run, seen⟩ := Option.bind_eq_some_iff.1 seen
  obtain ⟨w', turn, seen⟩ := Option.map_eq_some_iff.1 seen
  simp only [Prod.mk.injEq] at seen
  obtain ⟨at_it, none, created, before, certificate, domain⟩ := seen
  obtain ⟨c, there, name⟩ := Option.map_eq_some_iff.1 certificate
  exact ⟨w, w', c, run, turn, ⟨2, _, rfl, point?_of_setup at_it, rfl, rfl, none⟩, created, before,
    there, name, domain⟩

end TunnelKeeper.Coordinator
