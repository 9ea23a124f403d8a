import TunnelKeeper.Proofs.BackendState

/-!
The lives of generations. Whatever is asked of a backend's state, in any order and for any
generations, a generation reaches its milestones in the order of the life cycle, each at most once,
and none after it has been taken away or superseded. The state is what these lives come to: it is in
the phase that the last milestone of its own generation leads to (`Recorded`), and so a backend is
ready exactly between the two milestones that say so.
-/

namespace TunnelKeeper.BackendState

variable {ρ τ : Type}

/-! ### Operations and milestones -/

/-- What may be asked of the state. -/
inductive Operation (ρ τ : Type) where
  | beginLoad
  | abandon (generation : Nat)
  | setLoading (generation : Nat) (registration : ρ)
  | setStalled (generation : Nat)
  | setReady (generation : Nat) (tunnel : τ)
  | take

/-- What a generation may come to. -/
inductive Milestone (ρ τ : Type) where
  | begun
  | abandoned
  | registered (registration : ρ)
  | stalled
  | up (tunnel : τ)
  /-- It was taken away. -/
  | ended

/-- Milestones with the generations that reached them, the first in front. -/
abbrev Chronicle (ρ τ : Type) := List (Nat × Milestone ρ τ)

namespace Operation

def apply (s : BackendState ρ τ) : Operation ρ τ → BackendState ρ τ
  | beginLoad => s.beginLoad.2
  | abandon g => s.abandon g
  | setLoading g r => (s.setLoading g r).2
  | setStalled g => (s.setStalled g).2
  | setReady g n => (s.setReady g n).2
  | take => s.take.2

/-- The milestone that is reached, if the operation succeeds. Giving up a registration tells
nobody whether it did anything. -/
def milestone? (s : BackendState ρ τ) : Operation ρ τ → Option (Nat × Milestone ρ τ)
  | beginLoad => s.beginLoad.1.map (·, .begun)
  | abandon g =>
    match s.phase with
    | .registering => if s.IsCurrent g then some (g, .abandoned) else none
    | _ => none
  | setLoading g r => if (s.setLoading g r).1 then some (g, .registered r) else none
  | setStalled g => if (s.setStalled g).1 then some (g, .stalled) else none
  | setReady g n => if (s.setReady g n).1 then some (g, .up n) else none
  | take => some (s.generation, .ended)

end Operation

/-- The state after some operations. -/
def after (s : BackendState ρ τ) : List (Operation ρ τ) → BackendState ρ τ
  | [] => s
  | o :: rest => after (o.apply s) rest

/-- The milestones that are reached in some operations. -/
def chronicle (s : BackendState ρ τ) : List (Operation ρ τ) → Chronicle ρ τ
  | [] => []
  | o :: rest => (o.milestone? s).toList ++ chronicle (o.apply s) rest

/-- How one operation may change the state, and the milestone that is reached by it. -/
inductive Turn (s : BackendState ρ τ) : Option (Nat × Milestone ρ τ) → BackendState ρ τ → Prop where
  | idle : Turn s none s
  | begun (idle : s.phase.Idle) :
      Turn s (some (s.generation + 1, .begun)) ⟨s.generation + 1, .registering⟩
  | abandoned (now : s.phase = .registering) :
      Turn s (some (s.generation, .abandoned)) ⟨s.generation, .absent⟩
  | registered (r : ρ) (now : s.phase = .registering) :
      Turn s (some (s.generation, .registered r)) ⟨s.generation, .loading r⟩
  | stalled (r : ρ) (now : s.phase = .loading r) :
      Turn s (some (s.generation, .stalled)) ⟨s.generation, .stalled r⟩
  | up (r : ρ) (n : τ) (now : s.phase = .loading r) :
      Turn s (some (s.generation, .up n)) ⟨s.generation, .ready r n⟩
  | ended : Turn s (some (s.generation, .ended)) ⟨s.generation + 1, .absent⟩

lemma milestone?_abandon_of_ne {s : BackendState ρ τ} {g : Nat} (h : s ≠ ⟨g, .registering⟩) :
    (Operation.abandon g).milestone? s = none := by
  rw [Operation.milestone?]
  split
  · next phase => exact if_neg fun current => h (eq_mk_iff.2 ⟨current, phase⟩)
  · rfl

/-- **What an operation can do.** -/
lemma turn (s : BackendState ρ τ) (o : Operation ρ τ) : s.Turn (o.milestone? s) (o.apply s) := by
  cases o with
  | beginLoad =>
    rw [Operation.milestone?, Operation.apply]
    by_cases idle : s.phase.Idle
    · rw [beginLoad_of_idle idle]
      exact .begun idle
    · rw [beginLoad_of_not_idle idle]
      exact .idle
  | abandon g =>
    by_cases now : s = ⟨g, .registering⟩
    · subst now
      have milestone : (Operation.abandon g).milestone? (⟨g, .registering⟩ : BackendState ρ τ) =
          some (g, .abandoned) := if_pos rfl
      rw [milestone, Operation.apply, abandon_registering]
      exact .abandoned rfl
    · rw [milestone?_abandon_of_ne now, Operation.apply, abandon_of_ne now]
      exact .idle
  | setLoading g r =>
    rw [Operation.milestone?, Operation.apply]
    by_cases now : s = ⟨g, .registering⟩
    · subst now
      rw [setLoading_registering]
      exact .registered r rfl
    · rw [setLoading_of_ne r now]
      exact .idle
  | setStalled g =>
    rw [Operation.milestone?, Operation.apply]
    by_cases now : ∃ r, s = ⟨g, .loading r⟩
    · obtain ⟨r, rfl⟩ := now
      rw [setStalled_loading]
      exact .stalled r rfl
    · rw [setStalled_of_ne fun r eq => now ⟨r, eq⟩]
      exact .idle
  | setReady g n =>
    rw [Operation.milestone?, Operation.apply]
    by_cases now : ∃ r, s = ⟨g, .loading r⟩
    · obtain ⟨r, rfl⟩ := now
      rw [setReady_loading]
      exact .up r n rfl
    · rw [setReady_of_ne n fun r eq => now ⟨r, eq⟩]
      exact .idle
  | take => exact .ended

/-! ### Lives -/

/-- The milestones of a generation that is not over, and the phase that they lead to. -/
inductive Life : List (Milestone ρ τ) → Phase ρ τ → Prop where
  | unbegun : Life [] .absent
  | registering : Life [.begun] .registering
  | abandoned : Life [.begun, .abandoned] .absent
  | loading (r : ρ) : Life [.begun, .registered r] (.loading r)
  | stalled (r : ρ) : Life [.begun, .registered r, .stalled] (.stalled r)
  | ready (r : ρ) (n : τ) : Life [.begun, .registered r, .up n] (.ready r n)

namespace Life

variable {life : List (Milestone ρ τ)} {p : Phase ρ τ}

lemma eq_of_registering (h : Life life (.registering : Phase ρ τ)) : life = [.begun] := by
  cases h
  rfl

lemma eq_of_loading {r : ρ} (h : Life life (.loading r : Phase ρ τ)) :
    life = [.begun, .registered r] := by
  cases h
  rfl

lemma ended_notMem (h : Life life p) : .ended ∉ life := by
  cases h <;> simp

end Life

namespace Chronicle

/-- The life of one generation. -/
def life (g : Nat) (c : Chronicle ρ τ) : List (Milestone ρ τ) :=
  (c.filter (·.1 = g)).map (·.2)

variable {c : Chronicle ρ τ} {g : Nat}

lemma life_append (g : Nat) (c d : Chronicle ρ τ) : life g (c ++ d) = life g c ++ life g d := by
  simp [life]

lemma life_self (m : Milestone ρ τ) : life g [(g, m)] = [m] := by simp [life]

lemma life_of_ne {g' : Nat} (m : Milestone ρ τ) (ne : g' ≠ g) : life g [(g', m)] = [] := by
  simp [life, ne]

lemma mem_life {m : Milestone ρ τ} : m ∈ life g c ↔ (g, m) ∈ c := by
  simp [life]

/-- What may follow upon what: generations come one after the other, a load begins in a new one,
and one that was taken away is past. -/
def Precedes (a b : Nat × Milestone ρ τ) : Prop :=
  a.1 ≤ b.1 ∧ (b.2 = .begun → a.1 < b.1) ∧ (a.2 = .ended → a.1 < b.1)

end Chronicle

open Chronicle (life Precedes life_append life_self life_of_ne mem_life)

/-! ### The state is what the lives come to -/

/-- The chronicle tells how the state came about. -/
structure Recorded (c : Chronicle ρ τ) (s : BackendState ρ τ) : Prop where
  /-- The milestones of the current generation lead to the phase. -/
  current : Life (life s.generation c) s.phase
  /-- Earlier generations were taken away, or gave way to another load. -/
  earlier : ∀ g < s.generation, ∃ before p, Life before p ∧
    (life g c = before ++ [.ended] ∨ p.Idle ∧ life g c = before)
  later : ∀ g, s.generation < g → life g c = []
  ordered : c.Pairwise Precedes
  none_later : ∀ m ∈ c, m.1 ≤ s.generation

namespace Recorded

variable {c : Chronicle ρ τ} {s s' : BackendState ρ τ} {m : Milestone ρ τ}

theorem initial : Recorded ([] : Chronicle ρ τ) ({} : BackendState ρ τ) where
  current := .unbegun
  earlier _ lt := absurd lt (Nat.not_lt_zero _)
  later _ _ := rfl
  ordered := .nil
  none_later _ m := absurd m List.not_mem_nil

section Append

variable (told : Recorded c s)
include told

lemma precedes (old : m ≠ .begun) : ∀ a ∈ c, Precedes a (s.generation, m) := by
  intro a mem
  have le : a.1 ≤ s.generation := told.none_later a mem
  refine ⟨le, fun new => absurd new old, fun ended => Nat.lt_of_le_of_ne le ?_⟩
  intro same
  refine told.current.ended_notMem (mem_life.2 ?_)
  have same : a.1 = s.generation := same
  rwa [← same, ← ended]

lemma ordered_current (old : m ≠ .begun) : (c ++ [(s.generation, m)]).Pairwise Precedes :=
  List.pairwise_append.2 ⟨told.ordered, List.pairwise_singleton _ _, fun a mem _ last => by
    rw [List.mem_singleton.1 last]
    exact told.precedes old a mem⟩

lemma le_of_mem_append {g : Nat} (le : s.generation ≤ g) :
    ∀ a ∈ c ++ [(g, m)], a.1 ≤ g := by
  intro a mem
  rcases List.mem_append.1 mem with mem | mem
  · exact Nat.le_trans (told.none_later a mem) le
  · obtain rfl := List.mem_singleton.1 mem
    exact Nat.le_refl g

lemma go_on {p : Phase ρ τ} (next : Life (life s.generation c ++ [m]) p) (old : m ≠ .begun) :
    Recorded (c ++ [(s.generation, m)]) ⟨s.generation, p⟩ where
  current := by
    rw [life_append, life_self]
    exact next
  earlier g lt := by
    rw [life_append, life_of_ne m (Nat.ne_of_gt lt), List.append_nil]
    exact told.earlier g lt
  later g lt := by
    rw [life_append, life_of_ne m (Nat.ne_of_lt lt), List.append_nil]
    exact told.later g lt
  ordered := told.ordered_current old
  none_later := told.le_of_mem_append (Nat.le_refl _)

lemma ended : Recorded (c ++ [(s.generation, .ended)]) ⟨s.generation + 1, .absent⟩ where
  current := by
    rw [life_append, life_of_ne _ (Nat.ne_of_lt (Nat.lt_succ_self _)), List.append_nil,
      told.later _ (Nat.lt_succ_self _)]
    exact .unbegun
  earlier g lt := by
    rcases Nat.lt_succ_iff_lt_or_eq.1 lt with lt | rfl
    · rw [life_append, life_of_ne _ (Nat.ne_of_gt lt), List.append_nil]
      exact told.earlier g lt
    · rw [life_append, life_self]
      exact ⟨_, _, told.current, .inl rfl⟩
  later g lt := by
    have lt : s.generation < g := Nat.lt_of_succ_lt lt
    rw [life_append, life_of_ne _ (Nat.ne_of_lt lt), List.append_nil]
    exact told.later g lt
  ordered := told.ordered_current nofun
  none_later a mem := Nat.le_succ_of_le (told.le_of_mem_append (Nat.le_refl _) a mem)

lemma begun (idle : s.phase.Idle) :
    Recorded (c ++ [(s.generation + 1, .begun)]) ⟨s.generation + 1, .registering⟩ where
  current := by
    rw [life_append, life_self, told.later _ (Nat.lt_succ_self _)]
    exact .registering
  earlier g lt := by
    rw [life_append, life_of_ne _ (Nat.ne_of_gt lt), List.append_nil]
    rcases Nat.lt_succ_iff_lt_or_eq.1 lt with lt | rfl
    · exact told.earlier g lt
    · exact ⟨_, _, told.current, .inr ⟨idle, rfl⟩⟩
  later g lt := by
    rw [life_append, life_of_ne _ (Nat.ne_of_lt lt), List.append_nil]
    exact told.later g (Nat.lt_of_succ_lt lt)
  ordered := by
    refine List.pairwise_append.2 ⟨told.ordered, List.pairwise_singleton _ _, ?_⟩
    intro a mem b last
    have lt : a.1 < s.generation + 1 := Nat.lt_succ_of_le (told.none_later a mem)
    rw [List.mem_singleton.1 last]
    exact ⟨Nat.le_of_lt lt, fun _ => lt, fun _ => lt⟩
  none_later := told.le_of_mem_append (Nat.le_succ _)

end Append

lemma turn (told : Recorded c s) {m : Option (Nat × Milestone ρ τ)} (h : s.Turn m s') :
    Recorded (c ++ m.toList) s' := by
  have current := told.current
  cases h with
  | idle =>
    rw [Option.toList_none, List.append_nil]
    exact told
  | begun idle => exact told.begun idle
  | abandoned now =>
    refine told.go_on ?_ nofun
    rw [now] at current
    rw [current.eq_of_registering]
    exact .abandoned
  | registered r now =>
    refine told.go_on ?_ nofun
    rw [now] at current
    rw [current.eq_of_registering]
    exact .loading r
  | stalled r now =>
    refine told.go_on ?_ nofun
    rw [now] at current
    rw [current.eq_of_loading]
    exact .stalled r
  | up r n now =>
    refine told.go_on ?_ nofun
    rw [now] at current
    rw [current.eq_of_loading]
    exact .ready r n
  | ended => exact told.ended

lemma after (told : Recorded c s) (operations : List (Operation ρ τ)) :
    Recorded (c ++ s.chronicle operations) (s.after operations) := by
  induction operations generalizing c s with
  | nil =>
    rw [chronicle, List.append_nil]
    exact told
  | cons o rest ih =>
    rw [chronicle, ← List.append_assoc]
    exact ih (told.turn (s.turn o))

end Recorded

end TunnelKeeper.BackendState
