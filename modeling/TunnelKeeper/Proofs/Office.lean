import TunnelKeeper.Proofs.Footprints
import TunnelKeeper.Proofs.Setups

/-!
What is ordered from the collaborators, and what the authorities have on file. The office of a world
holds both; `Chore` says case by case what a task does there between two of its points. Loads open
files and throw certificates away, setups and checks have certificates issued, and tunnels and tokens
are ordered by setups and by attempts to connect.
-/

namespace TunnelKeeper.Coordinator

open World Cooperative

/-! ### Offices -/

namespace Office

variable (o : Office)

def order (e : Event) : Office := { o with orders := e :: o.orders }

/-- A new authority has no certificate yet. -/
def enroll (identity : InstanceIdentity) : Office :=
  { o with files := o.files ++ [(identity, none)] }

/-- An authority has another certificate, or none. -/
def certify (r : CycleId) (certificate : Option Certificate) : Office :=
  { o with files := o.files.modify r fun file => (file.1, certificate) }

end Office

namespace World

variable (w : World)

@[simp]
lemma length_files : w.office.files.length = w.cycles.length := List.length_map _

lemma map_modify {α β : Type} {f : α → β} {g : α → α} {h : β → β} (l : List α) (i : Nat)
    (same : ∀ a, f (g a) = h (f a)) : (l.modify i g).map f = (l.map f).modify i h := by
  refine List.ext_getElem? fun n => ?_
  simp only [List.getElem?_map, List.getElem?_modify]
  cases l[n]? with
  | none => rfl
  | some a =>
    by_cases here : i = n
    · simp [here, same]
    · simp [here]

/-- The token and its lock do not matter here. -/
lemma office_modifyCycle (r : CycleId) {f : LoadCycle → LoadCycle}
    (same : ∀ cycle, (f cycle).file = cycle.file) : (w.modifyCycle r f).office = w.office := by
  have files : (w.cycles.modify r f).map LoadCycle.file = w.cycles.map LoadCycle.file :=
    (map_modify (h := id) w.cycles r same).trans (List.modify_id r _)
  exact congrArg (Office.mk · w.orders) files

lemma office_certify (r : CycleId) (certificate : Option Certificate) :
    (w.modifyCycle r fun cycle => { cycle with certificate := certificate }).office =
      w.office.certify r certificate :=
  congrArg (Office.mk · w.orders) (map_modify w.cycles r fun _ => rfl)

lemma office_loadArrived (r : CycleId) :
    (w.loadArrived r).office = w.office.certify r w.storage := w.office_certify r _

lemma office_resetArrived (r : CycleId) : (w.resetArrived r).office = w.office.certify r none :=
  w.office_certify r _

lemma office_issueArrived (r : CycleId) (issue : Issue) :
    (w.issueArrived r issue).office = w.office.certify r (some (w.issuedNow r issue)) :=
  w.office_certify r _

lemma office_enterTokenLock (c : CycleId) (t : TaskId) : (w.enterTokenLock c t).office = w.office :=
  w.office_modifyCycle c fun _ => rfl

lemma office_leaveTokenLock (c : CycleId) (t : TaskId) :
    (w.leaveTokenLock c t).office = w.office :=
  ((touches_wakeOption _ _).office rfl).trans (w.office_modifyCycle c fun _ => rfl)

lemma office_createAuthority (identity : InstanceIdentity) :
    (w.createAuthority identity).2.office =
      (w.office.enroll identity).order (.createAuthority identity.domain identity.contact) :=
  congrArg (Office.mk · _) List.map_append

end World

/-! ### Chores -/

/-- The load cycle that a load is about, once there is one. -/
def LoadPoint.case? : LoadPoint → Option CycleId
  | register _ _ _ => none
  | certificate _ r _ => some r
  | reset _ r _ => some r

/-- The load cycle that a job is about. -/
def Job.case? : Job → Option CycleId
  | load p => p.case?
  | setup p => some p.cycle
  | _ => none

/-- What setup orders at its point whatever has become of its generation, the latest first. -/
def SetupPoint.unchecked (w : World) (p : SetupPoint) : List Event :=
  match p.step with
  | .start =>
    [if w.hasValidCertificate p.cycle then .hardenFiles else .issueCertificate (w.domain p.cycle)]
  | .build (.ok ()) =>
    [.startTunnel w.tunnels.length,
      .createTunnel w.tunnels.length ⟨w.relay p.cycle, w.config.relayPort⟩]
  | _ => []

/-- An attempt that has come to the lock of the token asks for one, if none is kept. -/
def Attempt.unchecked (w : World) (a : Attempt) : List Event :=
  match a.step with
  | .refresh .lock => [.token w.keys]
  | _ => []

/-- What a job orders at its point whatever has become of its generation. -/
def Job.unchecked (w : World) : Job → List Event
  | setup p => p.unchecked w
  | attempt a => a.unchecked w
  | _ => []

def SetupPoint.issue? (p : SetupPoint) : Option (CycleId × Issue) :=
  match p.step with
  | .issue ⟨_, .ok new⟩ => some (p.cycle, new)
  | _ => none

def CheckPoint.issue? : CheckPoint → Option (CycleId × Issue)
  | issue r _ _ ⟨_, .ok new⟩ => some (r, new)
  | _ => none

def HandlerPoint.issue? : HandlerPoint → Option (CycleId × Issue)
  | check p => p.issue?
  | _ => none

/-- The certificate that a task waits for will be issued, and for which load cycle. -/
def Task.issue? : Task → Option (CycleId × Issue)
  | setup p => p.issue?
  | check _ p => p.issue?
  | handler p => p.issue?
  | _ => none

/-- Between two of its points, a task changes the office, and it comes to a job. -/
inductive Chore (w : World) (task : Task) : Office → Job → Prop where
  /-- The task has no business there. -/
  | apart {y : Job} (same : ∀ r, y.case? = some r → task.job.case? = some r) :
      Chore w task w.office y
  /-- An instance has been registered, and its authority is to load the certificate in store. -/
  | enroll {g deadline : Nat} {call : Call (Except BackendError RegisterResponse)}
      (identity : InstanceIdentity) (load : Call (Except CertificateError Unit))
      (job : task.job = .load (.register g call deadline)) (current : w.state.IsCurrent g) :
      Chore w task
        (((w.office.enroll identity).order
          (.createAuthority identity.domain identity.contact)).order .loadCertificate)
        (.load (.certificate g w.cycles.length load))
  | load {g : Nat} {r : CycleId} {call : Call (Except CertificateError Unit)}
      (job : task.job = .load (.certificate g r call)) :
      Chore w task (w.office.certify r w.storage) .rest
  /-- The certificate is to be thrown away. -/
  | wrong {o : Office} {g : Nat} {r : CycleId} {call reset : Call (Except CertificateError Unit)}
      (job : task.job = .load (.certificate g r call))
      (loaded : o = w.office ∨ o = w.office.certify r w.storage) (current : w.state.IsCurrent g) :
      Chore w task (o.order .resetAuthority) (.load (.reset g r reset))
  | reset {g : Nat} {r : CycleId} {call : Call (Except CertificateError Unit)}
      (job : task.job = .load (.reset g r call)) :
      Chore w task (w.office.certify r none) .rest
  /-- The task orders what it does without looking at its generation. -/
  | unchecked {y : Job} (same : ∀ r, y.case? = some r → task.job.case? = some r) :
      Chore w task { w.office with orders := task.job.unchecked w ++ w.orders } y
  | issued {r : CycleId} {issue : Issue} {y : Job} (mine : task.issue? = some (r, issue))
      (same : ∀ r, y.case? = some r → task.job.case? = some r) :
      Chore w task (w.office.certify r (some (w.issuedNow r issue))) y
  /-- A certificate has been issued, and its files are to be hardened. -/
  | certified {p : SetupPoint} {issue : Issue} {y : Job} (here : task = .setup p)
      (mine : task.issue? = some (p.cycle, issue)) (current : w.state.IsCurrent p.generation)
      (same : ∀ r, y.case? = some r → task.job.case? = some r) :
      Chore w task
        ((w.office.certify p.cycle (some (w.issuedNow p.cycle issue))).order .hardenFiles) y
  | dial {a b : Attempt} (token : Token) (job : task.job = .attempt a)
      (current : w.state.IsCurrent a.active.generation) :
      Chore w task (w.office.order (.connectTunnel a.active.tunnel token)) (.attempt b)
  /-- A caller that has no valid token asks for one. -/
  | ask {entry : Nat} {r : CycleId} (here : task = .refresh entry r .lock) :
      Chore w task (w.office.order (.token w.keys)) .rest
  /-- The certificate of the backend that is ready is to be renewed. -/
  | renew {a : Active} (ready : w.state.active? = some a) (rest : task.job = .rest)
      (free : task.owner.isGuard = false) :
      Chore w task (w.office.order (.issueCertificate (w.domain a.registration))) .rest

variable (t : TaskId) {task : Task} {w : World}

lemma Chore.of_same {o : Office} {y : Job} (same : o = w.office) (none : y.case? = none) :
    Chore w task o y := by
  rw [same]
  exact .apart fun r case => nomatch none.symm.trans case

/-! ### Programs -/

namespace Load

lemma complete_snd (g : Nat) (r : CycleId) (w : World) : (complete g r w).2 = .done () := by
  unfold complete
  split <;> rfl

lemma chore_start (task : Task) (w : World) :
    Chore w task (start w).1.office ((start w).2.job .load) := by
  unfold start
  split
  · exact .of_same rfl rfl
  · next state _ => exact .of_same ((touches_startHandler { w with state := state }).office rfl) rfl

lemma chore_registered {g deadline : Nat} {call : Call (Except BackendError RegisterResponse)}
    (job : task.job = .load (.register g call deadline)) (response : RegisterResponse) (w : World) :
    Chore w task (registered g response w).1.office ((registered g response w).2.job .load) := by
  unfold registered
  split
  · exact .of_same rfl rfl
  · split
    · next current =>
      let identity : InstanceIdentity := ⟨response.domain, response.server, response.email⟩
      let opened := ((w.notice (.registered identity)).createAuthority identity).2
      have chore := Chore.enroll (w := w) identity opened.callLoad.1 job current
      rw [← office_createAuthority] at chore
      exact chore
    · exact .of_same rfl rfl

/-- The stored certificate has been loaded or not: it stands, or is to be thrown away. -/
lemma chore_certificateLoaded {g : Nat} {r : CycleId} {call : Call (Except CertificateError Unit)}
    (job : task.job = .load (.certificate g r call)) {v : World} (state : v.state = w.state)
    (loaded : v.office = w.office ∨ v.office = w.office.certify r w.storage) :
    Chore w task (certificateLoaded g r v).1.office ((certificateLoaded g r v).2.job .load) := by
  have settled {u : World} (same : u.office = v.office) : Chore w task u.office .rest := by
    rw [same]
    rcases loaded with same | certified
    · exact .of_same same rfl
    · rw [certified]
      exact .load job
  have completed : Chore w task (complete g r v).1.office ((complete g r v).2.job .load) := by
    rw [complete_snd]
    exact settled ((touches_complete v g r).office rfl)
  unfold certificateLoaded
  split
  · next current =>
    rw [state] at current
    split
    · exact completed
    · split
      · exact .wrong job loaded current
      · exact completed
  · exact settled rfl

lemma chore_resume {p : LoadPoint} (job : task.job = .load p) (w : World) :
    Chore w task (resume p w).1.office ((resume p w).2.job .load) := by
  cases p with
  | register g call deadline =>
    unfold resume
    dsimp only
    split
    · split
      · exact chore_registered job _ w
      · exact .of_same rfl rfl
    · exact .of_same rfl rfl
  | certificate g r call =>
    unfold resume
    dsimp only
    split
    · exact chore_certificateLoaded job rfl (.inr (w.office_loadArrived r))
    · exact chore_certificateLoaded job rfl (.inl rfl)
  | reset g r call =>
    have settled {v : World} (chore : Chore w task v.office .rest) : Chore w task
        (if v.state.IsCurrent g then complete g r v else (v, .done ())).1.office
        ((if v.state.IsCurrent g then complete g r v else (v, .done ())).2.job .load) := by
      split
      · rw [(touches_complete v g r).office rfl, complete_snd]
        exact chore
      · exact chore
    unfold resume
    dsimp only
    refine settled ?_
    split
    · rw [office_resetArrived]
      exact .reset job
    · exact .of_same rfl rfl

end Load

namespace Setup

lemma case_resume (t : TaskId) (p : SetupPoint) (w : World) (r : CycleId)
    (case : ((resume t p w).2.job .setup).case? = some r) : (Job.setup p).case? = some r := by
  have deed := deed_resume t .caller p w
  rcases waits : (resume t p w).2 with q | _ | _
  · rw [waits] at deed case
    obtain ⟨p', same, -, cycle⟩ := Deed.fits deed
    cases same
    rw [← case]
    exact congrArg some cycle
  · rw [waits] at case
    cases case
  · rw [waits] at case
    cases case

/-- At two of its points, setup gives its orders without looking at its generation. -/
lemma office_unchecked {g : Nat} {r : CycleId} {step : SetupStep}
    (here : step = .start ∨ step = .build (.ok ())) (w : World) :
    (resume t ⟨g, r, step⟩ w).1.office =
      { w.office with orders := (Job.setup ⟨g, r, step⟩).unchecked w ++ w.orders } := by
  rcases here with rfl | rfl
  · unfold resume
    rw [Job.unchecked, SetupPoint.unchecked]
    dsimp only
    by_cases valid : w.hasValidCertificate r
    · rw [if_pos valid, if_pos valid]
      rfl
    · rw [if_neg valid, if_neg valid]
      rfl
  · rfl

lemma chore_issued (p : SetupPoint) {call : Call (Except CertificateError Issue)}
    (here : p.step = .issue call) (w : World) :
    Chore w (.setup p) (resume t p w).1.office ((resume t p w).2.job .setup) := by
  have same := case_resume t p w
  obtain ⟨g, r, step⟩ := p
  obtain rfl : step = .issue call := here
  obtain ⟨due, answer⟩ := call
  cases answer with
  | error e =>
    have quiet : (resume t ⟨g, r, .issue ⟨due, .error e⟩⟩ w).1.office = w.office := by
      unfold resume issued
      dsimp only
      split <;> rfl
    rw [quiet]
    exact .apart same
  | ok new =>
    have mine : (Task.setup ⟨g, r, .issue ⟨due, .ok new⟩⟩).issue? = some (r, new) := rfl
    by_cases current : w.state.IsCurrent g
    · have hardened : (resume t ⟨g, r, .issue ⟨due, .ok new⟩⟩ w).1.office =
          (w.issueArrived r new).office.order .hardenFiles := by
        unfold resume issued
        dsimp only
        rw [if_pos (by exact current)]
        rfl
      rw [hardened, office_issueArrived]
      exact .certified rfl mine current same
    · have dropped : (resume t ⟨g, r, .issue ⟨due, .ok new⟩⟩ w).1.office =
          (w.issueArrived r new).office := by
        unfold resume issued
        dsimp only
        rw [if_neg (by exact current)]
      rw [dropped, office_issueArrived]
      exact .issued mine same

lemma chore_resume (p : SetupPoint) (w : World) :
    Chore w (.setup p) (resume t p w).1.office ((resume t p w).2.job .setup) := by
  have same := case_resume t p w
  have apart (quiet : (resume t p w).1.office = w.office) :
      Chore w (.setup p) (resume t p w).1.office ((resume t p w).2.job .setup) := by
    rw [quiet]
    exact .apart same
  obtain ⟨g, r, step⟩ := p
  cases step with
  | start =>
    rw [office_unchecked t (.inl rfl)]
    exact .unchecked same
  | issue call => exact chore_issued t _ rfl w
  | harden call =>
    refine apart ?_
    unfold resume
    dsimp only
    rw [(touches_awaitRuntime t _ _).office rfl]
    split <;> rfl
  | pause due => exact apart ((touches_awaitRuntime t w _).office rfl)
  | build answer =>
    cases answer with
    | error e => exact apart rfl
    | ok _ =>
      rw [office_unchecked t (.inr rfl)]
      exact .unchecked same
  | startTunnel n call =>
    refine apart ?_
    unfold resume
    dsimp only
    split
    · exact (touches_started w _ n).office rfl
    · rfl
  | discard n stop => exact apart rfl

end Setup

namespace Check

lemma chore_loading {goOn : LoadPoint → CheckPoint} (at_point : ∀ p, (goOn p).job = .load p)
    (outcome : CertificateCheck) {turn : Turn LoadPoint Unit}
    (chore : Chore w task turn.1.office (turn.2.job .load)) :
    Chore w task (loading goOn outcome turn).1.office
      ((loading goOn outcome turn).2.job CheckPoint.job) := by
  obtain ⟨v, p | _ | _⟩ := turn
  · show Chore w task v.office (goOn p).job
    rw [at_point p]
    exact chore
  · exact chore
  · exact chore

lemma job_tearingDown (turn : Turn TeardownPoint Unit) :
    (tearingDown turn).1 = turn.1 ∧ ((tearingDown turn).2.job CheckPoint.job).case? = none := by
  obtain ⟨v, _ | _ | _⟩ := turn <;> exact ⟨rfl, rfl⟩

lemma chore_start (rest : task.job = .rest) (free : task.owner.isGuard = false) (w : World) :
    Chore w task (start w).1.office ((start w).2.job CheckPoint.job) := by
  unfold start
  split
  · exact chore_loading (fun _ => rfl) _ (Load.chore_start task w)
  · next a ready =>
    dsimp only
    split
    · exact .of_same rfl rfl
    · exact .of_same rfl rfl
    · exact .renew ready rest free

lemma chore_resume {p : CheckPoint} (job : task.job = p.job) (mine : task.issue? = p.issue?)
    (w : World) : Chore w task (resume p w).1.office ((resume p w).2.job CheckPoint.job) := by
  cases p with
  | load p | reload p => exact chore_loading (fun _ => rfl) _ (Load.chore_resume job w)
  | settle due => exact chore_loading (fun _ => rfl) _ (Load.chore_start task w)
  | teardown p =>
    obtain ⟨same, none⟩ := job_tearingDown (Teardown.resume p w)
    rw [resume, same]
    exact .of_same ((Teardown.touches_resume w p).office rfl) none
  | issue r expire checked call =>
    obtain ⟨due, answer⟩ := call
    cases answer with
    | ok new =>
      obtain ⟨same, none⟩ := job_tearingDown (Teardown.start false (w.issueArrived r new))
      simp only [resume]
      rw [same, (Teardown.touches_start _ false).office rfl, office_issueArrived]
      refine .issued mine fun _ case => ?_
      cases none.symm.trans case
    | error e =>
      simp only [resume, failed]
      split <;> exact .of_same rfl rfl

end Check

namespace Handler

lemma chore_night {v : World} (chore : Chore w task v.office .rest) :
    Chore w task (night v).1.office ((night v).2.job HandlerPoint.job) := by
  unfold night
  dsimp only
  split <;> exact chore

lemma chore_checking {turn : Turn CheckPoint CertificateCheck}
    (chore : Chore w task turn.1.office (turn.2.job CheckPoint.job)) :
    Chore w task (checking turn).1.office ((checking turn).2.job HandlerPoint.job) := by
  obtain ⟨v, p | _ | _⟩ := turn
  · exact chore
  · exact chore_night chore
  · exact chore

lemma chore_resume (p : HandlerPoint) (w : World) :
    Chore w (.handler p) (resume t p w).1.office ((resume t p w).2.job HandlerPoint.job) := by
  cases p with
  | start => exact chore_night (.of_same rfl rfl)
  | sleep due =>
    unfold resume
    dsimp only
    split
    · exact .of_same rfl rfl
    · exact chore_checking (Check.chore_start rfl rfl w)
  | check p =>
    unfold resume
    dsimp only
    split
    · exact .of_same rfl rfl
    · exact chore_checking (Check.chore_resume rfl rfl w)

end Handler

/-! ### Tokens and connections -/

/-- A token is asked for when none is kept that is valid. -/
lemma Refresh.office_resume (c : CycleId) (p : RefreshPoint) (w : World) :
    (resume t c p w).1.office = w.office ∨ p = .lock ∧ (∃ q, (resume t c p w).2 = .wait q) ∧
      (resume t c p w).1.office = w.office.order (.token w.keys) := by
  cases p with
  | lock =>
    unfold resume
    dsimp only
    split
    · exact .inl (w.office_leaveTokenLock c t)
    · exact .inr ⟨rfl, ⟨_, rfl⟩, rfl⟩
  | request key call deadline =>
    unfold resume
    dsimp only
    refine .inl ?_
    split
    · split
      · next token _ =>
        have kept : (keep c token w).office = w.office := w.office_modifyCycle c fun _ => rfl
        exact (office_leaveTokenLock _ c t).trans kept
      · exact w.office_leaveTokenLock c t
    · exact w.office_leaveTokenLock c t

namespace Connect

lemma case_attempt (progress : Progress Attempt Result) : (progress.job .attempt).case? = none := by
  cases progress <;> rfl

lemma chore_connect {a : Attempt} (job : task.job = .attempt a) (token : Token) {v : World}
    (state : v.state = w.state) (same : v.office = w.office) :
    Chore w task (connect t a token v).1.office ((connect t a token v).2.job .attempt) := by
  unfold connect
  split
  · next current =>
    rw [state] at current
    have dialled : (v.callConnect a.active.tunnel token).2.office =
        w.office.order (.connectTunnel a.active.tunnel token) :=
      congrArg (Office.order · _) same
    rw [dialled]
    exact .dial token job current
  · exact .of_same (((touches_finish t v a).office rfl).trans same) (case_attempt _)

lemma chore_refresh {active : Active} {guarded : Bool} {p : RefreshPoint}
    (job : task.job = .attempt ⟨active, guarded, .refresh p⟩) (w : World) :
    Chore w task (resume t ⟨active, guarded, .refresh p⟩ w).1.office
      ((resume t ⟨active, guarded, .refresh p⟩ w).2.job .attempt) := by
  have state : (Refresh.resume t active.registration p w).1.state = w.state :=
    congrArg Outline.state (Refresh.outline_resume t active.registration p w).1
  have office := Refresh.office_resume t active.registration p w
  unfold resume
  dsimp only
  split
  · exact .of_same (((touches_finish ..).office rfl).trans (w.office_leaveTokenLock _ t)) (case_attempt _)
  · rcases office with same | ⟨rfl, ⟨q, waits⟩, asked⟩
    · rcases resumed : Refresh.resume t active.registration p w with ⟨v, q | answer | _⟩
      · rw [resumed] at same
        exact .of_same same rfl
      · rw [resumed] at same state
        cases answer with
        | ok token => exact chore_connect t job token state same
        | error e =>
          exact .of_same (((touches_finish ..).office rfl).trans same) (case_attempt _)
      · rw [resumed] at same
        exact .of_same same rfl
    · rcases resumed : Refresh.resume t active.registration .lock w with ⟨v, progress⟩
      rw [resumed] at waits asked
      obtain rfl : progress = .wait q := waits
      have asked : v.office = w.office.order (.token w.keys) := asked
      have unchecked : Chore w task { w.office with orders := task.job.unchecked w ++ w.orders }
          (.attempt ⟨active, guarded, .refresh q⟩) := .unchecked nofun
      rw [job] at unchecked
      rw [refreshed, asked]
      exact unchecked

lemma chore_resume {a : Attempt} (job : task.job = .attempt a) (w : World) :
    Chore w task (resume t a w).1.office ((resume t a w).2.job .attempt) := by
  have apart (quiet : (resume t a w).1.office = w.office) :
      Chore w task (resume t a w).1.office ((resume t a w).2.job .attempt) :=
    .of_same quiet (case_attempt _)
  obtain ⟨active, guarded, step⟩ := a
  cases step with
  | lock =>
    refine apart ?_
    unfold resume
    dsimp only
    split
    · exact (w.touches_leaveConnectLock t).office rfl
    · split
      · exact (touches_finish t w _).office rfl
      · exact w.office_enterTokenLock active.registration t
  | refresh p => exact chore_refresh t job w
  | connect call =>
    obtain ⟨due, answer⟩ := call
    refine apart ?_
    unfold resume
    cases answer with
    | error e => exact (touches_finish t (w.notice _) _).office rfl
    | ok lasting =>
      have arrived := (w.touches_connectArrived active.tunnel lasting).office rfl
      dsimp only
      split
      · exact arrived
      · unfold connected
        split <;> exact ((touches_finish ..).office rfl).trans arrived
  | undo call => exact apart ((touches_finish ..).office rfl)

end Connect

namespace Guard

variable (g : Nat)

lemma chore_attempting {turn : Turn Attempt Result}
    (chore : Chore w task turn.1.office (turn.2.job .attempt)) :
    Chore w task (attempting t g turn).1.office
      ((attempting t g turn).2.job GuardPoint.job) := by
  obtain ⟨v, a | result | _⟩ := turn
  · exact chore
  · rcases attempting_done t g v result with ended | next
    · rw [ended]
      exact chore
    · rw [next, (touches_round v g).office rfl, (outline_round g v).1]
      exact chore
  · exact chore

lemma chore_resume (p : GuardPoint) (w : World) :
    Chore w (.guard g p) (resume t g p w).1.office ((resume t g p w).2.job GuardPoint.job) := by
  cases p with
  | start =>
    refine .of_same ((touches_round w g).office rfl) ?_
    rw [show (resume t g .start w).2.job GuardPoint.job = .rest from (outline_round g w).1]
    rfl
  | watch n =>
    unfold resume
    dsimp only
    split <;> exact .of_same rfl rfl
  | sleep due =>
    unfold resume
    dsimp only
    split
    · exact .of_same rfl rfl
    · exact chore_attempting t g
        (.of_same ((Connect.touches_start t w true).office rfl) (Connect.case_attempt _))
  | attempt a => exact chore_attempting t g (Connect.chore_resume t rfl w)

end Guard

/-! ### Tasks -/

namespace Task

variable {P R : Type} {t}

lemma chore_report {entry : Nat} {point : P → Task} {result : R → Result} {f : P → Job}
    (at_point : ∀ p, (point p).job = f p) {turn : Turn P R}
    (chore : Chore w task turn.1.office (turn.2.job f)) :
    Chore w task (report entry point result turn).1.office
      (jobOf (report entry point result turn).2) := by
  obtain ⟨v, p | _ | _⟩ := turn
  · show Chore w task v.office (point p).job
    rw [at_point p]
    exact chore
  · exact chore
  · exact chore

lemma chore_goOn {point : P → Task} {f : P → Job} (at_point : ∀ p, (point p).job = f p)
    {turn : Turn P R} (chore : Chore w task turn.1.office (turn.2.job f)) :
    Chore w task (goOn point turn).1.office (jobOf (goOn point turn).2) := by
  obtain ⟨v, p | _ | _⟩ := turn
  · show Chore w task v.office (point p).job
    rw [at_point p]
    exact chore
  · exact chore
  · exact chore

lemma chore_of_same {f : P → Job} (none : ∀ p, (f p).case? = none) {turn : Turn P R}
    (same : turn.1.office = w.office) : Chore w task turn.1.office (turn.2.job f) := by
  refine .of_same same ?_
  obtain ⟨v, p | _ | _⟩ := turn
  · exact none p
  · rfl
  · rfl

lemma chore_begin (t : TaskId) (entry : Nat) (operation : Operation) (w : World) :
    Chore w (.asked entry operation) (begin t entry operation w).1.office
      (jobOf (begin t entry operation w).2) := by
  cases operation with
  | load => exact chore_report (fun _ => rfl) (Load.chore_start _ w)
  | start => exact .of_same rfl rfl
  | close | stop =>
    exact chore_report (f := .teardown) (fun _ => rfl)
      (chore_of_same (fun _ => rfl) ((Teardown.touches_start w true).office rfl))
  | connect =>
    exact chore_report (f := .attempt) (fun _ => rfl)
      (chore_of_same (fun _ => rfl) ((Connect.touches_start t w false).office rfl))
  | disconnect =>
    exact chore_report (f := .disconnect) (fun _ => rfl)
      (chore_of_same (fun _ => rfl) ((Disconnect.touches_start w).office rfl))
  | request caller =>
    exact chore_report (f := .attempt) (fun _ => rfl)
      (chore_of_same (fun _ => rfl) ((Connect.touches_request t w caller).office rfl))
  | check => exact chore_report (fun _ => rfl) (Check.chore_start rfl rfl w)
  | refresh c | lookUp c =>
    exact chore_report (f := fun _ => .rest) (fun _ => rfl)
      (chore_of_same (fun _ => rfl) (w.office_enterTokenLock c t))

/-- What a task does at the office in its turn. -/
theorem chore_resume (t : TaskId) (task : Task) (w : World) :
    Chore w task (resume t task w).1.office (jobOf (resume t task w).2) := by
  cases task with
  | asked entry operation => exact chore_begin t entry operation w
  | load entry p => exact chore_report (fun _ => rfl) (Load.chore_resume rfl w)
  | teardown entry p =>
    exact chore_report (f := .teardown) (fun _ => rfl)
      (chore_of_same (fun _ => rfl) ((Teardown.touches_resume w p).office rfl))
  | connect entry a => exact chore_report (fun _ => rfl) (Connect.chore_resume t rfl w)
  | disconnect entry p =>
    exact chore_report (f := .disconnect) (fun _ => rfl) (chore_of_same (fun _ => rfl) rfl)
  | check entry p => exact chore_report (fun _ => rfl) (Check.chore_resume rfl rfl w)
  | refresh entry c p =>
    refine chore_report (f := fun _ => .rest) (fun _ => rfl) ?_
    have rest (progress : Progress RefreshPoint Refresh.Answer) :
        progress.job (fun _ => .rest) = .rest := by
      cases progress <;> rfl
    rw [rest]
    rcases Refresh.office_resume t c p w with same | ⟨rfl, -, asked⟩
    · exact .of_same same rfl
    · rw [asked]
      exact .ask rfl
  | lookUp entry c =>
    exact chore_report (f := fun _ => .rest) (fun _ => rfl)
      (chore_of_same (fun _ => rfl) (w.office_leaveTokenLock c t))
  | startLoad => exact chore_goOn (fun _ => rfl) (Load.chore_start _ w)
  | detachedLoad p => exact chore_goOn (fun _ => rfl) (Load.chore_resume rfl w)
  | setup p => exact chore_goOn (fun _ => rfl) (Setup.chore_resume t p w)
  | autostart =>
    exact chore_goOn (f := .attempt) (fun _ => rfl)
      (chore_of_same (fun _ => rfl) ((Connect.touches_start t w false).office rfl))
  | autoconnect a => exact chore_goOn (fun _ => rfl) (Connect.chore_resume t rfl w)
  | handler p => exact chore_goOn (fun _ => rfl) (Handler.chore_resume t p w)
  | guard g p => exact chore_goOn (fun _ => rfl) (Guard.chore_resume t g p w)

end Task

/-! ### Moves -/

/-- What a move does at the office, a task does in its turn. -/
theorem Move.chore {m : Move} {w w' : World} (move : m.outcome? w = some w') :
    (∃ t task, m = .turn t ∧ w.schedule.point? t = some task ∧
      Chore w task w'.office (w'.outline.job t)) ∨ (∀ t, m ≠ .turn t) ∧ w'.office = w.office := by
  by_cases turn : ∃ t, m = .turn t
  · obtain ⟨t, rfl⟩ := turn
    obtain ⟨task, here, -, rfl⟩ := exists_of_turn move
    refine .inl ⟨t, task, rfl, here, ?_⟩
    have job : (advance t task w).outline.job t = jobOf (Task.resume t task w).2 :=
      congrArg jobOf (point?_advance t task w)
    have office : (advance t task w).office = (Task.resume t task w).1.office := by
      rw [advance_eq]
      rfl
    rw [job, office]
    exact Task.chore_resume t task w
  · refine .inr ⟨fun t same => turn ⟨t, same⟩, ?_⟩
    cases m with
    | turn t => exact absurd ⟨t, rfl⟩ turn
    | giveUp t =>
      unfold outcome? giveUp? at move
      dsimp only at move
      split at move
      · next c _ _ => exact Option.some.inj move ▸ office_leaveTokenLock _ c t
      · next c _ => exact Option.some.inj move ▸ office_leaveTokenLock _ c t
      · cases move
    | build =>
      rw [outcome?, finishBuild?] at move
      split at move
      · cases move
      · exact Option.some.inj move ▸ rfl
    | time now =>
      obtain ⟨-, move⟩ := Option.ite_none_right_eq_some.1 move
      exact Option.some.inj move ▸ rfl
    | line | ask | drop | host | answers | clock => exact Option.some.inj move ▸ rfl

end TunnelKeeper.Coordinator
