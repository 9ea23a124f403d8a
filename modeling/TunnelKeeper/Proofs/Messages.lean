import TunnelKeeper.Proofs.Loads
import TunnelKeeper.Proofs.Setups
import TunnelKeeper.Proofs.Voices

/-!
What the user is told. Setup speaks while it sees to the certificate, and at no other time: that the
remote access is ready once a certificate has been issued, or that none could be issued. A setup that
finds a certificate which is still valid says nothing, so what was said before stands.
-/

namespace TunnelKeeper.Coordinator

open World Cooperative

/-! ### Messages -/

def Event.message? : Event → Option Message
  | message m => some m
  | _ => none

def Outline.messages (c : Outline) : List Message := c.events.filterMap Event.message?

/-- The messages so far, the latest first. -/
def World.messages (w : World) : List Message := (w.trace.map Prod.snd).filterMap Event.message?

lemma World.outline_messages (w : World) : w.outline.messages = w.messages := by
  unfold Outline.messages messages outline
  rw [List.filterMap_filter]
  congr 1
  funext e
  cases e <;> rfl

lemma Turned.messages_cases {t : TaskId} {o : Owner} {c d : Outline} {x y : Job}
    (turned : Turned t o c x d y) :
    d.messages = c.messages ∨ ∃ p, x = .setup p ∧ c.state.IsCurrent p.generation := by
  refine (turned.filterMap_cases Event.message? rfl).imp_right fun ⟨e, heard, voice⟩ => ?_
  cases e with
  | message => exact voice
  | _ => cases heard

lemma Move.messages_cases {m : Move} {w w' : World} (move : m.outcome? w = some w') :
    w'.messages = w.messages ∨ ∃ t p, m = .turn t ∧ w.outline.job t = .setup p ∧
      w.state.IsCurrent p.generation := by
  rw [← outline_messages, ← outline_messages]
  rcases Move.cases move with ⟨t, task, d, y, rfl, here, turned, ending⟩ | ⟨-, happened⟩
  · have same : w'.outline.messages = d.messages :=
      congrArg (List.filterMap Event.message?) ending.events
    rw [same]
    refine turned.messages_cases.imp_right fun ⟨p, job, current⟩ => ?_
    exact ⟨t, p, rfl, (outline_job here).trans job, current⟩
  · generalize w'.outline = d at happened
    cases happened <;> exact .inl rfl

/-! ### Setups and their certificates -/

/-- Setup has seen to the certificate. -/
def SetupStep.isCertified : SetupStep → Bool
  | start => false
  | issue _ => false
  | _ => true

namespace Setup

variable {t : TaskId} {p q : SetupPoint} {w : World}

lemma messages_awaitRuntime (t : TaskId) (p : SetupPoint) (w : World) :
    (awaitRuntime t p w).1.messages = w.messages := by
  unfold awaitRuntime
  rw [askRuntimeReady]
  cases w.runtimeReady with
  | true => rfl
  | false =>
    dsimp only
    split <;> rfl

lemma messages_announce (p : SetupPoint) (w : World) :
    (announce p w).1.messages = w.messages := by
  rw [← outline_messages, ← outline_messages, (announce_eq p w).1]
  cases w.autostart <;> rfl

/-- Setup speaks when a certificate has been issued or could not be issued, and at no other time. -/
lemma messages_resume (t : TaskId) (w : World) (silent : ∀ call, p.step ≠ .issue call) :
    (resume t p w).1.messages = w.messages := by
  obtain ⟨g, r, step⟩ := p
  cases step with
  | start =>
    unfold resume
    dsimp only
    split <;> rfl
  | issue call => exact absurd rfl (silent call)
  | harden call =>
    unfold resume
    dsimp only
    rw [messages_awaitRuntime]
    split <;> rfl
  | pause due => exact messages_awaitRuntime t _ w
  | build answer => cases answer <;> rfl
  | startTunnel n call =>
    unfold resume
    dsimp only
    split
    · unfold started
      dsimp only
      split
      · exact messages_announce _ _
      · rfl
    · rfl
  | discard n call => rfl

/-- Setup gets past its certificate as it finds one that is valid, or as one is issued, which the
user hears of. -/
lemma certified_cases (waits : (resume t p w).2 = .wait q) (certified : q.step.isCertified = true) :
    p.step.isCertified = true ∨ p.step = .start ∧ w.hasValidCertificate p.cycle = true ∨
      ∃ call issue, p.step = .issue call ∧ call.answer = .ok issue ∧
        (resume t p w).1.messages = .ready :: w.messages := by
  obtain ⟨g, r, step⟩ := p
  cases step with
  | start =>
    refine .inr (.inl ⟨rfl, ?_⟩)
    unfold resume at waits
    dsimp only at waits
    split at waits
    · next valid => exact valid
    · cases waits
      cases certified
  | issue call =>
    obtain ⟨due, answer⟩ := call
    unfold resume issued at waits ⊢
    cases answer with
    | error e =>
      dsimp only at waits
      split at waits <;> cases waits
    | ok issue =>
      dsimp only at waits ⊢
      split at waits
      · next current =>
        refine .inr (.inr ⟨_, issue, rfl, rfl, ?_⟩)
        rw [if_pos current]
        rfl
      · cases waits
  | _ => exact .inl rfl

end Setup

/-! ### The setup of a backend that is ready -/

/-- The setup that goes on in a move. -/
def Move.setup? (m : Move) (w : World) : Option SetupPoint :=
  match m with
  | turn t =>
    match w.schedule.point? t with
    | some (.setup p) => some p
    | _ => none
  | _ => none

/-- A certificate has been issued. -/
def SetupStep.isIssued : SetupStep → Bool
  | issue ⟨_, .ok _⟩ => true
  | _ => false

/-- Setup of a generation has a certificate issued in this move. -/
def Move.certifies (g : Nat) (m : Move) (w : World) : Bool :=
  (m.setup? w).any fun p => p.generation = g && p.step.isIssued

/-- Setup of a generation begins in this move, and finds that its certificate is valid. -/
def Move.findsCertificate (g : Nat) (m : Move) (w : World) : Bool :=
  (m.setup? w).any fun p =>
    p.generation = g && p.step matches .start && w.hasValidCertificate p.cycle

variable {m : Move} {w w' : World} {t : TaskId} {p : SetupPoint} {g : Nat}

lemma Move.setup?_turn (at_it : w.outline.job t = .setup p) : (Move.turn t).setup? w = some p := by
  rw [setup?, point?_of_setup at_it]

namespace World

/-- The backend of a generation is ready, or its setup has seen to the certificate. -/
def Certified (g : Nat) (w : World) : Prop :=
  (∃ r n, w.state = ⟨g, .ready r n⟩) ∨ ∃ t p r, w.outline.job t = .setup p ∧
    p.step.isCertified = true ∧ p.generation = g ∧ w.state = ⟨g, .loading r⟩

/-- Nothing is said while others than the setup of the current generation go on. -/
lemma messages_of_other (loads : Loads w.outline) (at_it : w.outline.job t = .setup p)
    (current : p.generation = w.state.generation) (move : m.outcome? w = some w')
    (other : m ≠ .turn t) : w'.messages = w.messages := by
  rcases Move.messages_cases move with same | ⟨u, q, rfl, theirs, current'⟩
  · exact same
  · have mine : (w.outline.job t).duty = some (.setup, w.outline.state.generation) :=
      Job.duty_eq_setup_iff.2 ⟨p, at_it, current⟩
    have theirs : (w.outline.job u).duty = some (.setup, w.outline.state.generation) :=
      Job.duty_eq_setup_iff.2 ⟨q, theirs, current'.symm⟩
    exact absurd (congrArg _ (loads.carried.alone u t .setup theirs mine)) other

lemma loading_before (loads : Loads w.outline) (move : m.outcome? w = some w')
    (at_it : w.outline.job t = .setup p) (own : w'.state.generation = p.generation) :
    ∃ r, w.state = ⟨p.generation, .loading r⟩ := by
  have past : p.generation ≤ w.state.generation :=
    loads.carried.past t .setup _ (Job.duty_eq_setup_iff.2 ⟨p, at_it, rfl⟩)
  have le : w.state.generation ≤ w'.state.generation := (Move.shift move).generation_le
  exact loads.loading_of_setup at_it (Nat.le_antisymm past (own ▸ le))

lemma messages_of_setup (at_it : w.outline.job t = .setup p)
    (turn : (Move.turn t).outcome? w = some w') :
    w'.messages = (Setup.resume t p w).1.messages ∧
      w'.outline.job t = (Setup.resume t p w).2.job .setup := by
  obtain ⟨task, here, -, rfl⟩ := exists_of_turn turn
  obtain rfl := Task.eq_setup_of_job ((outline_job here).symm.trans at_it)
  refine ⟨?_, ?_⟩
  · rw [advance_eq]
    show (Task.resume t (.setup p) w).1.messages = _
    exact congrArg messages (Task.goOn_fst Task.setup (Setup.resume t p w))
  · have after : (advance t (.setup p) w).outline.job t = jobOf (Task.resume t (.setup p) w).2 :=
      congrArg jobOf (point?_advance t (.setup p) w)
    exact after.trans (Task.job_goOn (fun _ => rfl) (Setup.resume t p w))

lemma certified_of_ready (loads : Loads w.outline) (move : m.outcome? w = some w')
    (ready : ∃ r n, w'.state = ⟨g, .ready r n⟩) :
    w.Certified g ∧ w'.messages = w.messages := by
  rcases ready_cases move ready with same | ⟨⟨r, loading⟩, -, -⟩
  · refine ⟨.inl (same ▸ ready), ?_⟩
    rcases Move.messages_cases move with quiet | ⟨t, p, -, at_it, current⟩
    · exact quiet
    · obtain ⟨r, n, ready⟩ := ready
      obtain ⟨r', loading⟩ := loads.loading_of_setup at_it current.symm
      cases loading.symm.trans (same.symm.trans ready)
  · obtain ⟨r', n, ready⟩ := ready
    rcases Move.cases move with ⟨t, task, d, y, rfl, here, turned, ending⟩ | ⟨-, happened⟩
    · have ready : d.state.phase = .ready r' n := by
        rw [← ending.state]
        exact congrArg _ ready
      rcases turned.ready_from ready with before | ⟨p, call, job, starting, own⟩
      · cases (congrArg _ loading).symm.trans before
      · have at_it := (outline_job here).trans job
        have generation : p.generation = g :=
          congrArg BackendState.generation (own.symm.trans loading)
        refine ⟨.inr ⟨t, p, r, at_it, by rw [starting]; rfl, generation, loading⟩, ?_⟩
        rw [(messages_of_setup at_it move).1]
        exact Setup.messages_resume t w (starting ▸ nofun)
    · cases loading.symm.trans (happened.same_slots.2.2.symm.trans ready)

lemma certified_of_turn {q : SetupPoint} {r : CycleId} (at_it : w.outline.job t = .setup q)
    (loading : w.state = ⟨q.generation, .loading r⟩) (turn : (Move.turn t).outcome? w = some w')
    (after : w'.outline.job t = .setup p) (certified : p.step.isCertified = true) :
    w.Certified q.generation ∧ w'.messages = w.messages ∨
      (Move.turn t).certifies q.generation w = true ∧ w'.messages = .ready :: w.messages ∨
      (Move.turn t).findsCertificate q.generation w = true ∧ w'.messages = w.messages := by
  obtain ⟨messages, job⟩ := messages_of_setup at_it turn
  have waits : (Setup.resume t q w).2 = .wait p := by
    rw [after] at job
    rcases ended : (Setup.resume t q w).2 with p' | _ | _
    · rw [ended] at job
      rw [Job.setup.inj job]
    · rw [ended] at job
      cases job
    · rw [ended] at job
      cases job
  rw [messages]
  have setup := Move.setup?_turn at_it
  rcases Setup.certified_cases waits certified with before | ⟨start, valid⟩ |
    ⟨⟨due, answer⟩, issue, step, ok, said⟩
  · refine .inl ⟨.inr ⟨t, q, r, at_it, before, rfl, loading⟩, Setup.messages_resume t w ?_⟩
    intro call step
    rw [step] at before
    cases before
  · refine .inr (.inr ⟨?_, Setup.messages_resume t w (start ▸ nofun)⟩)
    rw [Move.findsCertificate, setup, Option.any_some, valid, start]
    simp
  · refine .inr (.inl ⟨?_, said⟩)
    obtain rfl : answer = .ok issue := ok
    rw [Move.certifies, setup, Option.any_some, step]
    simp [SetupStep.isIssued]

/-- Setup of a backend sees to the certificate in one of two ways, and there is silence after it. -/
lemma Certified.before (back : Background w.outline) (loads : Loads w.outline)
    (move : m.outcome? w = some w') (now : w'.Certified g) :
    w.Certified g ∧ w'.messages = w.messages ∨
      m.certifies g w = true ∧ w'.messages = .ready :: w.messages ∨
      m.findsCertificate g w = true ∧ w'.messages = w.messages := by
  rcases now with ready | ⟨t, p, r, after, certified, rfl, loading⟩
  · exact .inl (certified_of_ready loads move ready)
  · have own : w'.state.generation = p.generation := by rw [loading]
    by_cases mine : m = .turn t
    · subst mine
      obtain ⟨task, d, y, here, turned, ending⟩ := turn_cases move
      obtain rfl : y = .setup p := ending.job.symm.trans after
      cases turned with
      | once deed =>
        obtain ⟨q, job, generation, -⟩ := deed.fits
        have at_it := (outline_job here).trans job
        rw [← generation] at own ⊢
        obtain ⟨r', before⟩ := loading_before loads move at_it own
        exact certified_of_turn at_it before move after certified
    · rcases Move.setup_before back move after with at_it | ⟨t', -, handed⟩ | ⟨turn, -⟩
      · obtain ⟨r', before⟩ := loading_before loads move at_it own
        have current : p.generation = w.state.generation := by rw [before]
        exact .inl ⟨.inr ⟨t, p, r', at_it, certified, rfl, before⟩,
          messages_of_other loads at_it current move mine⟩
      · rw [handed.start] at certified
        cases certified
      · exact absurd turn mine

end World

/-- **A message outlives a stall only where the next setup finds a certificate.** When a backend is
ready, its setup has had a certificate issued, and the last message says so; or its setup has found a
certificate that was valid, and the last message is what it was before. -/
theorem last_message_of_ready {s : Setting} {moves : List Move} {w : World} {g : Nat} {r : CycleId}
    {n : TunnelId} (run : s.world.after? moves = some w) (ready : w.state = ⟨g, .ready r n⟩) :
    w.messages.head? = some .ready ∧
        s.world.Since (fun m v _ => m.certifies g v = true)
          (fun _ v v' => v'.messages = v.messages) moves ∨
      s.world.Since (fun m v _ => m.findsCertificate g v = true ∧ w.messages = v.messages)
          (fun _ v v' => v'.messages = v.messages) moves := by
  have step {m : Move} {v v' : World} (move : m.outcome? v = some v')
      (h : Background v.outline ∧ Loads v.outline) (now : v'.Certified g ∧ w.messages = v'.messages) :
      (v.Certified g ∧ w.messages = v.messages) ∧ v'.messages = v.messages ∨
        (m.certifies g v = true ∧ w.messages = .ready :: v.messages ∨
          m.findsCertificate g v = true ∧ w.messages = v.messages) := by
    obtain ⟨certified, same⟩ := now
    rw [same]
    rcases certified.before h.1 h.2 move with ⟨before, quiet⟩ | ⟨certifies, said⟩ | ⟨finds, quiet⟩
    · exact .inl ⟨⟨before, quiet⟩, quiet⟩
    · exact .inr (.inl ⟨certifies, said⟩)
    · exact .inr (.inr ⟨finds, quiet⟩)
  rcases World.throughout_or_since_of
      (P := fun m v _ => m.certifies g v = true ∧ w.messages = .ready :: v.messages ∨
        m.findsCertificate g v = true ∧ w.messages = v.messages)
      (Q := fun _ v v' => v'.messages = v.messages)
      (I := fun v => Background v.outline ∧ Loads v.outline)
      (fun move h => ⟨h.1.step (Move.step move), h.2.step h.1 (Move.step move)⟩) step run
      ⟨s.background, s.loads⟩ ⟨.inl ⟨r, n, ready⟩, rfl⟩ with
    ⟨⟨⟨r', n', initially⟩ | ⟨t, p, r', initially, -⟩, -⟩, -⟩ | since
  · cases congrArg BackendState.phase initially
  · cases initially
  · rcases since.or with certified | found
    · obtain ⟨-, v, -, -, said⟩ := certified.exists
      exact .inl ⟨by rw [said, List.head?_cons], certified.imp fun _ _ _ kind => kind.1⟩
    · exact .inr found

/-- The first backend has had its certificate issued. -/
theorem firstBackend_is_told_ready : ∃ w : World,
    ({} : Setting).world.after? firstBackend = some w ∧ (∃ r n, w.state = ⟨1, .ready r n⟩) ∧
      w.messages.head? = some .ready ∧
      ({} : Setting).world.Since (fun m v _ => m.certifies 1 v = true)
        (fun _ v v' => v'.messages = v.messages) firstBackend := by
  have seen : (({} : Setting).world.after? firstBackend).map (fun w => w.state) =
      some ⟨1, .ready 0 0⟩ := rfl
  -- There was no certificate in store.
  have issued : ¬ ({} : Setting).world.Since (fun m v _ => m.findsCertificate 1 v = true)
      (fun _ v v' => v'.messages = v.messages) firstBackend := by
    decide +kernel
  obtain ⟨w, run, ready⟩ := Option.map_eq_some_iff.1 seen
  rcases last_message_of_ready run ready with ⟨last, certified⟩ | found
  · exact ⟨w, run, ⟨0, 0, ready⟩, last, certified⟩
  · exact absurd (found.imp fun _ _ _ kind => kind.1) issued

/-- A certificate is in store, but loading it fails the first time, and none can be issued. -/
def Setting.flakyStore : Setting where
  storage := some ⟨"abc.example", .ofUnixMillis 8640000000, "f0"⟩
  scripts :=
    { load := { entries := [{ answer := .error (.load "disk") }, { answer := .ok () }],
                usual := .ok () }
      issue := { entries := [{ answer := .error (.issue "acme") }], usual := .ok {} } }

/-- A setup stalls for want of a certificate, and the next load finds the one in store. -/
def loadedAfterStall : List Move :=
  [.ask .load, .turn 0, .turn 1, .turn 0, .turn 0, .turn 2, .turn 2, .ask .load, .turn 3, .turn 3,
    .turn 3, .turn 4, .turn 4, .build, .turn 4, .turn 4]

/-- The backend is ready, and the user is still told that setup failed. -/
theorem failure_outlives_stall : ∃ (w : World) (r : CycleId) (n : TunnelId),
    Setting.flakyStore.world.after? loadedAfterStall = some w ∧ w.state.phase = .ready r n ∧
      w.messages.head? = some .setupFailed := by
  have seen : (Setting.flakyStore.world.after? loadedAfterStall).map (fun w =>
      (w.state.phase, w.messages)) = some (.ready 1 0, [.setupFailed]) := rfl
  obtain ⟨w, run, seen⟩ := Option.map_eq_some_iff.1 seen
  obtain ⟨ready, messages⟩ := Prod.mk.inj seen
  exact ⟨w, 1, 0, run, ready, by rw [messages]; rfl⟩

end TunnelKeeper.Coordinator
