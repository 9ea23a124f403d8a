import TunnelKeeper.Proofs.Turn

/-!
Who lets what be heard. In a deed a task adds one marked event to the trace at most, and which one
that can be is told by what the task is in the middle of.
-/

namespace TunnelKeeper.Coordinator

/-- An attempt has connected its tunnel, and it is neither superseded nor cancelled. -/
structure Attempt.InTime (a : Attempt) (t : TaskId) (c : Outline) : Prop where
  success : a.step.success?.isSome = true
  current : c.state.IsCurrent a.active.generation
  live : a.guarded = true → c.isCancelled t = false

/-- Who may add an event to the trace, as far as that matters: the task runs for an owner and goes
from one job to another. -/
def Event.From (t : TaskId) (o : Owner) (c : Outline) (x y : Job) : Event → Prop
  | startTunnel n => n = c.tunnels.length ∧ ∃ p, x = .setup p ∧ p.step = .build (.ok ())
  | signal .backendUp => ∃ p, x = .setup p
  | signal .connected => (∃ a, x = .attempt a ∧ a.InTime t c) ∧ y = .rest
  | signal .disconnected => (∃ p, x = .disconnect p) ∨ x = .rest ∧ o.isGuard = true
  | message _ => ∃ p, x = .setup p ∧ c.state.IsCurrent p.generation
  | connectTunnel _ _ => ∃ a p, x = .attempt a ∧ a.step = .refresh p
  | _ => True

/-- A deed adds one event at most. -/
lemma Deed.events_cases {t : TaskId} {o : Owner} {c d : Outline} {x y : Job}
    (deed : Deed t o c x d y) :
    d.events = c.events ∨ ∃ e, d.events = e :: c.events ∧ e.From t o c x y := by
  cases deed with
  | begin =>
    rw [Outline.begin_eq]
    exact .inr ⟨_, rfl, trivial⟩
  | certified _ _ _ _ current => exact .inr ⟨_, rfl, _, rfl, current⟩
  | stalled said current =>
    cases said with
    | false => exact .inl rfl
    | true => exact .inr ⟨_, rfl, _, rfl, current rfl⟩
  | tunnelMade _ _ _ _ built => exact .inr ⟨_, rfl, rfl, _, rfl, built⟩
  | up _ autostart => cases autostart <;> exact .inr ⟨_, rfl, _, rfl⟩
  | discard => exact .inr ⟨_, rfl, trivial⟩
  | takeReady =>
    rw [Outline.take_eq]
    exact .inr ⟨_, rfl, trivial⟩
  | take =>
    generalize c.state.phase.registration?.isSome = said
    rw [Outline.take_eq]
    cases said with
    | false => exact .inl rfl
    | true => exact .inr ⟨_, rfl, trivial⟩
  | stopped | hangUp => exact .inr ⟨_, rfl, trivial⟩
  | dial _ _ _ early =>
    obtain ⟨p, refresh⟩ := early
    exact .inr ⟨_, rfl, _, p, rfl, refresh⟩
  | attemptOver | undone =>
    rw [Outline.endAttempt_eq]
    exact .inl rfl
  | connected lasting current here live =>
    rw [Outline.endAttempt_eq, Outline.connect_eq]
    exact .inr ⟨_, rfl, ⟨_, rfl, by rw [here]; rfl, current, live⟩, rfl⟩
  | connectedLate lasting =>
    rw [Outline.endAttempt_eq, Outline.connect_eq]
    exact .inl rfl
  | undo lasting =>
    rw [Outline.connect_eq]
    exact .inr ⟨_, rfl, trivial⟩
  | hungUp => exact .inr ⟨_, rfl, .inl ⟨_, rfl⟩⟩
  | lost guard => exact .inr ⟨_, rfl, .inr ⟨rfl, by rw [guard]; rfl⟩⟩
  | _ => exact .inl rfl

section Heard

variable {β : Type} (f : Event → Option β) {t : TaskId} {o : Owner} {c d : Outline} {x y : Job}

/-- Who listens to some events only, hears of a deed what one that may add such an event has added. -/
lemma Deed.filterMap_cases (deed : Deed t o c x d y) :
    d.events.filterMap f = c.events.filterMap f ∨ ∃ e, (f e).isSome ∧ e.From t o c x y := by
  rcases deed.events_cases with same | ⟨e, added, voice⟩
  · exact .inl (congrArg _ same)
  · rw [added]
    cases here : f e with
    | none => exact .inl (List.filterMap_cons_none here)
    | some heard => exact .inr ⟨e, by rw [here]; rfl, voice⟩

lemma Turned.filterMap_cases (deaf : f (.signal .disconnected) = none)
    (turned : Turned t o c x d y) :
    d.events.filterMap f = c.events.filterMap f ∨ ∃ e, (f e).isSome ∧ e.From t o c x y := by
  cases turned with
  | once deed => exact deed.filterMap_cases f
  | @andLost d _ _ _ deed =>
    have quiet : (d.hear (.signal .disconnected)).events.filterMap f = d.events.filterMap f :=
      List.filterMap_cons_none deaf
    rw [quiet]
    exact deed.filterMap_cases f

end Heard

lemma Outside.events {c d : Outline} (happened : Outside c d) : d.events = c.events := by
  cases happened <;> rfl

end TunnelKeeper.Coordinator
