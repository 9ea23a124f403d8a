import TunnelKeeper.Remote.BackendState
import Mathlib.Logic.Function.Basic

/-!
What each operation on a backend's state does, told by the one state in which it does anything:
work of a generation moves the phase on from exactly one phase of that generation, and changes
nothing anywhere else.
-/

namespace TunnelKeeper

variable {ρ τ : Type}

namespace Phase

lemma idle_iff {p : Phase ρ τ} : p.Idle ↔ p = .absent ∨ ∃ r, p = .stalled r := by
  cases p <;> simp [Idle]

end Phase

namespace BackendState

variable {s : BackendState ρ τ} {g : Nat}

lemma eq_mk_iff {p : Phase ρ τ} : s = ⟨g, p⟩ ↔ s.generation = g ∧ s.phase = p := by
  cases s
  simp

/-! ### Loading -/

lemma beginLoad_of_idle (h : s.phase.Idle) :
    s.beginLoad = (some (s.generation + 1), ⟨s.generation + 1, .registering⟩) := if_pos h

lemma beginLoad_of_not_idle (h : ¬ s.phase.Idle) : s.beginLoad = (none, s) := if_neg h

lemma abandon_registering : (⟨g, .registering⟩ : BackendState ρ τ).abandon g = ⟨g, .absent⟩ := by
  simp [abandon, IsCurrent]

lemma abandon_of_ne (h : s ≠ ⟨g, .registering⟩) : s.abandon g = s := by
  unfold abandon
  split
  · next phase => exact if_neg fun current => h (eq_mk_iff.2 ⟨current, phase⟩)
  · rfl

lemma setLoading_registering (r : ρ) :
    (⟨g, .registering⟩ : BackendState ρ τ).setLoading g r = (true, ⟨g, .loading r⟩) := by
  simp [setLoading, IsCurrent]

lemma setLoading_of_ne (r : ρ) (h : s ≠ ⟨g, .registering⟩) : s.setLoading g r = (false, s) := by
  unfold setLoading
  split
  · next phase => exact if_neg fun current => h (eq_mk_iff.2 ⟨current, phase⟩)
  · rfl

/-! ### Setup -/

lemma setStalled_loading (r : ρ) :
    (⟨g, .loading r⟩ : BackendState ρ τ).setStalled g = (true, ⟨g, .stalled r⟩) := by
  simp [setStalled, IsCurrent]

lemma setStalled_of_ne (h : ∀ r, s ≠ ⟨g, .loading r⟩) : s.setStalled g = (false, s) := by
  unfold setStalled
  split
  · next r phase => exact if_neg fun current => h r (eq_mk_iff.2 ⟨current, phase⟩)
  · rfl

lemma setStalled_generation (s : BackendState ρ τ) (g : Nat) :
    (s.setStalled g).2.generation = s.generation := by
  unfold setStalled
  split
  · split <;> rfl
  · rfl

lemma setReady_loading (r : ρ) (n : τ) :
    (⟨g, .loading r⟩ : BackendState ρ τ).setReady g n = (true, ⟨g, .ready r n⟩) := by
  simp [setReady, IsCurrent]

lemma setReady_of_ne (n : τ) (h : ∀ r, s ≠ ⟨g, .loading r⟩) : s.setReady g n = (false, s) := by
  unfold setReady
  split
  · next r phase => exact if_neg fun current => h r (eq_mk_iff.2 ⟨current, phase⟩)
  · rfl

/-! ### Readiness -/

lemma active?_eq_some_iff {a : ActiveBackend ρ τ} :
    s.active? = some a ↔ s = ⟨a.generation, .ready a.registration a.tunnel⟩ := by
  obtain ⟨g, p⟩ := s
  obtain ⟨g', r, n⟩ := a
  cases p <;> simp [active?]

lemma active?_ne_none_iff : s.active? ≠ none ↔ ∃ r n, s.phase = .ready r n := by
  unfold active?
  cases s.phase <;> simp

lemma activeFor?_eq_some_iff {a : ActiveBackend ρ τ} :
    s.activeFor? g = some a ↔
      s = ⟨a.generation, .ready a.registration a.tunnel⟩ ∧ a.generation = g := by
  simp [activeFor?, Option.filter_eq_some_iff, active?_eq_some_iff]

lemma activeFor?_ne_none_iff :
    s.activeFor? g ≠ none ↔ s.generation = g ∧ ∃ r n, s.phase = .ready r n := by
  rw [Option.ne_none_iff_exists']
  constructor
  · rintro ⟨a, h⟩
    obtain ⟨rfl, rfl⟩ := activeFor?_eq_some_iff.1 h
    exact ⟨rfl, _, _, rfl⟩
  · rintro ⟨hg, r, n, phase⟩
    exact ⟨⟨g, r, n⟩, activeFor?_eq_some_iff.2 ⟨eq_mk_iff.2 ⟨hg, phase⟩, rfl⟩⟩

lemma active?_of_idle (idle : s.phase.Idle) : s.active? = none := by
  rcases Phase.idle_iff.1 idle with phase | ⟨r, phase⟩ <;> rw [active?, phase]

lemma active?_setStalled (s : BackendState ρ τ) (g : Nat) :
    (s.setStalled g).2.active? = s.active? := by
  by_cases now : ∃ r, s = ⟨g, .loading r⟩
  · obtain ⟨r, rfl⟩ := now
    rw [setStalled_loading]
    rfl
  · rw [setStalled_of_ne fun r eq => now ⟨r, eq⟩]

lemma ne_take {s' : BackendState ρ τ} (same : s'.generation = s.generation) : s' ≠ s.take.2 := by
  rintro rfl
  exact Nat.succ_ne_self _ same

/-! ### The life cycle -/

/-- How one step may change the state. -/
inductive Shift (s : BackendState ρ τ) : BackendState ρ τ → Prop where
  | same : Shift s s
  | begin (idle : s.phase.Idle) : Shift s ⟨s.generation + 1, .registering⟩
  | fail (now : s.phase = .registering) : Shift s ⟨s.generation, .absent⟩
  | registered (r : ρ) (now : s.phase = .registering) : Shift s ⟨s.generation, .loading r⟩
  | stalled (r : ρ) (now : s.phase = .loading r) : Shift s ⟨s.generation, .stalled r⟩
  | up (r : ρ) (n : τ) (now : s.phase = .loading r) : Shift s ⟨s.generation, .ready r n⟩
  | take : Shift s ⟨s.generation + 1, .absent⟩

lemma shift_setStalled (s : BackendState ρ τ) (g : Nat) : s.Shift (s.setStalled g).2 := by
  by_cases now : ∃ r, s = ⟨g, .loading r⟩
  · obtain ⟨r, rfl⟩ := now
    rw [setStalled_loading]
    exact .stalled r rfl
  · rw [setStalled_of_ne fun r eq => now ⟨r, eq⟩]
    exact .same

lemma Shift.generation_le {s s' : BackendState ρ τ} (shift : s.Shift s') :
    s.generation ≤ s'.generation := by
  cases shift with
  | begin | take => exact Nat.le_succ _
  | _ => exact Nat.le_refl _

end BackendState

end TunnelKeeper
