import TunnelKeeper.Proofs.BackendState
import TunnelKeeper.Proofs.Outline

/-!
What a program can do to the outline of a world between two points at which it waits. `Deed` says
it case by case, with what must be so beforehand; `Turned` adds the one case of a task that does two
deeds in a row.
-/

namespace TunnelKeeper.Coordinator

/-- Between two of its points, the task `t`, which runs for `o`, comes from one job to another and
changes the outline. -/
inductive Deed (t : TaskId) (o : Owner) (c : Outline) : Job → Outline → Job → Prop where
  /-- Nothing that matters. -/
  | rest : Deed t o c .rest c .rest
  /-- Work is left to a task of its own. -/
  | delegate (free : o.isGuard = false) : Deed t o c .rest (c.spawn .caller .rest) .rest
  /-- The handler drops whatever it is in the middle of. -/
  | dropped {x : Job} (handler : o = .handler) (cancelled : c.isCancelled t = true)
      (checking : x = .rest ∨ (∃ p, x = .load p) ∨ ∃ p, x = .teardown p) :
      Deed t o c x c .rest
  /-- A load begins. -/
  | begin {p : LoadPoint} (free : o.isGuard = false)
      (live : o = .handler → c.isCancelled t = false) (idle : c.state.phase.Idle)
      (new : p.generation = c.state.generation + 1) :
      Deed t o c .rest c.begin (.load p)
  | loadOn {p p' : LoadPoint} (same : p'.generation = p.generation) (closer : p'.rank < p.rank)
      (current : c.state.IsCurrent p.generation) : Deed t o c (.load p) c (.load p')
  /-- A load ends too late to change anything. -/
  | loadLate {p : LoadPoint} (late : c.state ≠ ⟨p.generation, .registering⟩) :
      Deed t o c (.load p) c .rest
  | loadFailed {p : LoadPoint} (now : c.state = ⟨p.generation, .registering⟩) :
      Deed t o c (.load p) { c with state := ⟨p.generation, .absent⟩ } .rest
  /-- The registration stands, and setup goes on by itself. -/
  | registered {p : LoadPoint} (r : CycleId) (now : c.state = ⟨p.generation, .registering⟩) :
      Deed t o c (.load p)
        ({ c with state := ⟨p.generation, .loading r⟩ }.spawn .caller
          (.setup ⟨p.generation, r, .start⟩)) .rest
  /-- Setup goes on, and only the host's runtime can hold it up. -/
  | setupOn {p : SetupPoint} (step : SetupStep) (early : p.tunnel? = none)
      (still : ({ p with step := step } : SetupPoint).tunnel? = none)
      (closer : c.runtimeReady = true → step.rank < p.step.rank) :
      Deed t o c (.setup p) c (.setup { p with step := step })
  /-- The certificate has been issued. -/
  | certified {p : SetupPoint} (step : SetupStep) (early : p.tunnel? = none)
      (still : ({ p with step := step } : SetupPoint).tunnel? = none)
      (closer : step.rank < p.step.rank) (current : c.state.IsCurrent p.generation) :
      Deed t o c (.setup p) (c.hear (.message .ready)) (.setup { p with step := step })
  | setupLate {p : SetupPoint} (early : p.tunnel? = none)
      (late : ¬ c.state.IsCurrent p.generation) :
      Deed t o c (.setup p) c .rest
  /-- Setup goes no further, and the user hears of it when no certificate could be issued. -/
  | stalled {p : SetupPoint} (said : Bool) (current : said → c.state.IsCurrent p.generation)
      (failed : ∀ n call, p.step = .startTunnel n call → call.answer ≠ .ok ())
      (kept : ∀ n call, p.step ≠ .discard n call) :
      Deed t o c (.setup p)
        { c.hearIf said (.message .setupFailed) with
          state := (c.state.setStalled p.generation).2 } .rest
  | tunnelMade {p : SetupPoint} (params : TunnelParams) (call : Call (Except TransportError Unit))
      (early : p.tunnel? = none) (closer : 1 < p.step.rank) (built : p.step = .build (.ok ())) :
      Deed t o c (.setup p)
        ((c.addTunnel params).hear (.startTunnel c.tunnels.length))
        (.setup { p with step := .startTunnel c.tunnels.length call })
  /-- The tunnel has started, and the backend is up. -/
  | up {p : SetupPoint} {n : TunnelId} {call : Call (Except TransportError Unit)} (r : CycleId)
      (autostart : Bool) (here : p.step = .startTunnel n call) (ok : call.answer = .ok ())
      (now : c.state = ⟨p.generation, .loading r⟩) :
      Deed t o c (.setup p)
        (({ c.setStage n .running with state := ⟨p.generation, .ready r n⟩ }.hear
          (.signal .backendUp)).delegateIf autostart) .rest
  /-- The tunnel has started too late. -/
  | discard {p : SetupPoint} {n : TunnelId} {call : Call (Except TransportError Unit)}
      (stop : Call Unit) (here : p.step = .startTunnel n call) (ok : call.answer = .ok ())
      (late : ∀ r, c.state ≠ ⟨p.generation, .loading r⟩) :
      Deed t o c (.setup p)
        (((c.setStage n .running).setStage n .stopping).hear (.stopTunnel n))
        (.setup { p with step := .discard n stop })
  | discarded {p : SetupPoint} {n : TunnelId} {stop : Call Unit} (here : p.step = .discard n stop) :
      Deed t o c (.setup p) ((c.setStage n .stopped).setConnected n false) .rest
  /-- A backend that is ready is taken away. -/
  | takeReady {x : Job} {r : CycleId} {n : TunnelId} (withHandler : Bool) (stop : Call Unit)
      (free : o.isGuard = false) (asked : x = if withHandler then .close else .rest)
      (ready : c.state.phase = .ready r n) :
      Deed t o c x (((c.take withHandler).setStage n .stopping).hear (.stopTunnel n))
        (.teardown ⟨n, stop⟩)
  /-- A backend that is not ready is taken away. -/
  | take {x : Job} (withHandler : Bool) (free : o.isGuard = false)
      (asked : x = if withHandler then .close else .rest)
      (unready : ∀ r n, c.state.phase ≠ .ready r n) :
      Deed t o c x
        ((c.take withHandler).hearIf c.state.phase.registration?.isSome (.signal .backendDown))
        .rest
  | stopped {p : TeardownPoint} :
      Deed t o c (.teardown p)
        (((c.setStage p.tunnel .stopped).setConnected p.tunnel false).hear (.signal .backendDown))
        .rest
  /-- An attempt to connect waits for others to end. -/
  | queue {a : Attempt} (active : c.state.active? = some a.active) (lock : a.step = .lock)
      (owned : a.guarded = o.isGuard)
      (live : a.guarded = true → c.isCancelled t = false) :
      Deed t o c .rest { c with connectLock := c.connectLock.enter t } (.attempt a)
  /-- An attempt that holds the lock goes on with a token. -/
  | attemptOn {a : Attempt} (point : RefreshPoint)
      (early : (∃ p, a.step = .refresh p) ∨ a.step = .lock ∧
        (a.guarded = true → c.isCancelled t = false) ∧ c.isConnected a.active.tunnel = false) :
      Deed t o c (.attempt a) c (.attempt { a with step := .refresh point })
  | dial {a : Attempt} (token : Token) (call : Call (Except TransportError Bool))
      (current : c.state.IsCurrent a.active.generation) (early : ∃ p, a.step = .refresh p) :
      Deed t o c (.attempt a) (c.hear (.connectTunnel a.active.tunnel token))
        (.attempt { a with step := .connect call })
  /-- An attempt ends without a connection. -/
  | attemptOver {a : Attempt} (failed : a.step.mayFail = true) :
      Deed t o c (.attempt a) (c.endAttempt t a) .rest
  | connected {a : Attempt} (lasting : Bool) (current : c.state.IsCurrent a.active.generation)
      (here : a.step.success? = some lasting) (live : a.guarded = true → c.isCancelled t = false) :
      Deed t o c (.attempt a)
        (((c.connect a.active.tunnel lasting).hear (.signal .connected)).endAttempt t a) .rest
  /-- The tunnel is connected, but the backend has been superseded. -/
  | connectedLate {a : Attempt} (lasting : Bool)
      (late : ¬ c.state.IsCurrent a.active.generation) (here : a.step.success? = some lasting)
      (live : a.guarded = true → c.isCancelled t = false) :
      Deed t o c (.attempt a)
        ((c.connect a.active.tunnel lasting).endAttempt t a) .rest
  /-- The tunnel is connected, but the attempt has been cancelled. -/
  | undo {a : Attempt} (lasting : Bool) (call : Call Unit) (guarded : a.guarded = true)
      (cancelled : c.isCancelled t = true) (here : a.step.success? = some lasting) :
      Deed t o c (.attempt a)
        ((c.connect a.active.tunnel lasting).hear (.disconnectTunnel a.active.tunnel))
        (.attempt { a with step := .undo call })
  | undone {a : Attempt} (here : ∃ call, a.step = .undo call) :
      Deed t o c (.attempt a) ((c.setConnected a.active.tunnel false).endAttempt t a) .rest
  /-- There is nothing to disconnect. -/
  | stay (unready : c.state.active? = none) : Deed t o c .hangUp c .rest
  /-- The connection is down already, and nobody is to bring it up again. -/
  | release {b : Active} (ready : c.state.active? = some b) (down : c.isConnected b.tunnel = false) :
      Deed t o c .hangUp c.cancelGuard .rest
  | hangUp {p : DisconnectPoint} {b : Active} (ready : c.state.active? = some b)
      (here : p.tunnel = b.tunnel) :
      Deed t o c .hangUp (c.cancelGuard.hear (.disconnectTunnel p.tunnel)) (.disconnect p)
  | hungUp {p : DisconnectPoint} :
      Deed t o c (.disconnect p) ((c.setConnected p.tunnel false).hear (.signal .disconnected))
        .rest
  /-- The guard sees that the connection is lost. -/
  | lost {g : Nat} (guard : o = .guard g)
      (watched : c.isCancelled t = false ∨ c.state.activeFor? g ≠ none) :
      Deed t o c .rest (c.hear (.signal .disconnected)) .rest

/-- What happens between two points of a task: a deed, or the end of a guard's attempt to connect,
after which it sees that there is no connection. -/
inductive Turned (t : TaskId) (o : Owner) (c : Outline) (x : Job) : Outline → Job → Prop where
  | once {d : Outline} {y : Job} (deed : Deed t o c x d y) : Turned t o c x d y
  | andLost {d : Outline} {a : Attempt} {g : Nat} (attempt : x = .attempt a)
      (deed : Deed t o c x d .rest) (guard : o = .guard g) (watched : d.state.activeFor? g ≠ none) :
      Turned t o c x (d.hear (.signal .disconnected)) .rest

/-! ### What deeds leave alone -/

namespace Outline

variable (c : Outline) (t : TaskId)

lemma hearIf_eq (b : Bool) (e : Event) :
    c.hearIf b e = { c with events := (c.hearIf b e).events } := by
  cases b <;> rfl

lemma connect_eq (n : TunnelId) (lasting : Bool) :
    c.connect n lasting = { c with tunnels := (c.connect n lasting).tunnels } := by
  cases lasting <;> rfl

lemma take_eq (withHandler : Bool) :
    c.take withHandler = { c with
      state := c.state.take.2
      guardSlot := c.guardSlot.cancel
      handlerSlot := if withHandler then c.handlerSlot.cancel else c.handlerSlot } := by
  cases withHandler <;> rfl

lemma begin_cases :
    (c.handlerSlot.isRunning = true ∧ c.begin = { c with
      state := ⟨c.state.generation + 1, .registering⟩
      events := .register :: c.events }) ∨
    (c.handlerSlot.occupant = none ∧ c.begin = { c.spawn .handler .rest with
      state := ⟨c.state.generation + 1, .registering⟩
      handlerSlot := c.handlerSlot.occupy c.next
      events := .register :: c.events }) := by
  unfold begin startHandler
  split
  · next there => exact .inl ⟨there, rfl⟩
  · next empty => exact .inr ⟨Option.not_isSome_iff_eq_none.1 empty, rfl⟩

lemma begin_eq : c.begin = { c with
    toRoster := c.begin.toRoster
    state := ⟨c.state.generation + 1, .registering⟩
    handlerSlot := c.begin.handlerSlot
    events := .register :: c.events } := by
  rcases c.begin_cases with ⟨-, same⟩ | ⟨-, spawned⟩
  · rw [same]
  · rw [spawned]
    rfl

lemma endAttempt_of_guarded {a : Attempt} (guarded : a.guarded = true) :
    c.endAttempt t a = { c with connectLock := (c.connectLock.leave t).1 } := if_pos guarded

lemma endAttempt_cases (a : Attempt) :
    c.endAttempt t a = { c with connectLock := (c.connectLock.leave t).1 } ∨
      (c.guardSlot.occupant = none ∧ c.state.activeFor? a.active.generation ≠ none ∧
        c.endAttempt t a = { c.spawn (.guard a.active.generation) .rest with
          connectLock := (c.connectLock.leave t).1
          guardSlot := c.guardSlot.occupy c.next }) := by
  unfold endAttempt startGuard
  dsimp only
  split
  · exact .inl rfl
  · split
    · exact .inl rfl
    · next free =>
      rw [Bool.or_eq_true, not_or] at free
      obtain ⟨there, empty⟩ := free
      exact .inr ⟨Option.not_isSome_iff_eq_none.1 empty, fun gone => there (gone ▸ rfl), rfl⟩

lemma endAttempt_eq (a : Attempt) : c.endAttempt t a = { c with
    toRoster := (c.endAttempt t a).toRoster
    connectLock := (c.connectLock.leave t).1
    guardSlot := (c.endAttempt t a).guardSlot } := by
  rcases c.endAttempt_cases t a with same | ⟨-, -, spawned⟩
  · rw [same]
  · rw [spawned]
    rfl

end Outline

namespace Deed

variable {t : TaskId} {o : Owner} {c d : Outline} {x y : Job}

/-- An attempt to connect does not change the state, and it cancels nobody. -/
lemma attempt_keeps {a : Attempt} (deed : Deed t o c (.attempt a) d y) :
    d.state = c.state ∧ d.isCancelled = c.isCancelled := by
  have ended (c : Outline) : (c.endAttempt t a).state = c.state ∧
      (c.endAttempt t a).isCancelled = c.isCancelled := by
    rcases c.endAttempt_cases t a with same | ⟨-, -, spawned⟩
    · rw [same]
      exact ⟨rfl, rfl⟩
    · rw [spawned]
      exact ⟨rfl, rfl⟩
  cases deed with
  | takeReady withHandler _ _ asked | take withHandler _ asked =>
    cases withHandler <;> cases asked
  | dropped | attemptOn | dial => exact ⟨rfl, rfl⟩
  | attemptOver | undone => exact ended _
  | connected lasting | connectedLate lasting =>
    rw [Outline.connect_eq]
    exact ended _
  | undo lasting =>
    rw [Outline.connect_eq]
    exact ⟨rfl, rfl⟩

lemma shift (deed : Deed t o c x d y) : c.state.Shift d.state := by
  cases deed with
  | begin _ _ idle =>
    rw [Outline.begin_eq]
    exact .begin idle
  | loadFailed now =>
    rw [now]
    exact .fail rfl
  | registered r now =>
    show c.state.Shift ⟨_, .loading r⟩
    rw [now]
    exact .registered r rfl
  | stalled =>
    rw [Outline.hearIf_eq]
    exact BackendState.shift_setStalled _ _
  | @up p n _ r autostart _ _ now =>
    have up : c.state.Shift ⟨p.generation, .ready r n⟩ := by
      rw [now]
      exact .up r n rfl
    cases autostart <;> exact up
  | takeReady =>
    rw [Outline.take_eq]
    exact .take
  | take =>
    rw [Outline.hearIf_eq, Outline.take_eq]
    exact .take
  | attemptOver | undone =>
    rw [Outline.endAttempt_eq]
    exact .same
  | connected | connectedLate =>
    rw [Outline.endAttempt_eq, Outline.connect_eq]
    exact .same
  | undo =>
    rw [Outline.connect_eq]
    exact .same
  | _ => exact .same

/-- A deed spawns one task at most, which rests or is about to set up what a load has left to it. -/
lemma roster (deed : Deed t o c x d y) : d.toRoster = c.toRoster ∨
    ∃ o' x', d.toRoster = c.toRoster.spawn o' x' ∧
      (x' = .rest ∨ ∃ p r, x = .load p ∧ y = .rest ∧ c.state = ⟨p.generation, .registering⟩ ∧
        x' = .setup ⟨p.generation, r, .start⟩ ∧ d.state = ⟨p.generation, .loading r⟩) := by
  have ended (c : Outline) (a : Attempt) : (c.endAttempt t a).toRoster = c.toRoster ∨
      ∃ o', (c.endAttempt t a).toRoster = c.toRoster.spawn o' .rest := by
    rcases c.endAttempt_cases t a with same | ⟨-, -, spawned⟩
    · exact .inl (by rw [same])
    · exact .inr ⟨_, by rw [spawned]; rfl⟩
  have rests {Left : Job → Prop} {c d : Outline} (spawned : d.toRoster = c.toRoster ∨
      ∃ o', d.toRoster = c.toRoster.spawn o' .rest) : d.toRoster = c.toRoster ∨
      ∃ o' x', d.toRoster = c.toRoster.spawn o' x' ∧ (x' = .rest ∨ Left x') :=
    spawned.imp_right fun ⟨o', spawned⟩ => ⟨o', .rest, spawned, .inl rfl⟩
  cases deed with
  | delegate => exact .inr ⟨_, _, rfl, .inl rfl⟩
  | begin =>
    rcases c.begin_cases with ⟨-, same⟩ | ⟨-, spawned⟩
    · exact .inl (by rw [same])
    · exact .inr ⟨.handler, .rest, by rw [spawned]; rfl, .inl rfl⟩
  | registered r now => exact .inr ⟨_, _, rfl, .inr ⟨_, r, rfl, rfl, now, rfl, rfl⟩⟩
  | stalled said =>
    rw [Outline.hearIf_eq]
    exact .inl rfl
  | up r autostart =>
    cases autostart with
    | false => exact .inl rfl
    | true => exact .inr ⟨_, _, rfl, .inl rfl⟩
  | takeReady withHandler =>
    rw [Outline.take_eq]
    exact .inl rfl
  | take withHandler =>
    rw [Outline.hearIf_eq, Outline.take_eq]
    exact .inl rfl
  | attemptOver => exact rests (ended c _)
  | undone => exact rests (ended (c.setConnected _ false) _)
  | connected lasting | connectedLate lasting =>
    rw [Outline.connect_eq]
    exact rests (ended _ _)
  | undo lasting =>
    rw [Outline.connect_eq]
    exact .inl rfl
  | _ => exact .inl rfl

/-- An attempt to connect is new, for the backend that is ready, or it goes on. -/
lemma attempt_cases {a : Attempt} (deed : Deed t o c x d (.attempt a)) :
    (c.state.active? = some a.active ∧ a.guarded = o.isGuard ∧
        (a.guarded = true → c.isCancelled t = false)) ∨
      ∃ a', x = .attempt a' ∧ a'.active = a.active ∧ a'.guarded = a.guarded := by
  generalize after : Job.attempt a = y at deed
  cases deed with
  | queue active lock owned live =>
    cases after
    exact .inl ⟨active, owned, live⟩
  | attemptOn | dial | undo =>
    cases after
    exact .inr ⟨_, rfl, rfl, rfl⟩
  | _ => cases after

end Deed

lemma Turned.owner_of_some {t u : TaskId} {o o' : Owner} {c d : Outline} {x y : Job}
    (turned : Turned t o c x d y) (own : c.owner u = some o') : d.owner u = some o' := by
  have kept {d : Outline} {y : Job} (deed : Deed t o c x d y) : d.owner u = some o' := by
    rcases deed.roster with same | ⟨o'', x'', spawned, -⟩
    · rw [same, own]
    · rw [spawned]
      exact congrArg (Option.or · _) own
  cases turned with
  | once deed => exact kept deed
  | andLost _ deed => exact (kept deed :)

end TunnelKeeper.Coordinator
