import TunnelKeeper.Proofs.Turn

/-!
Runs, move by move: what is so of every move of a run, which moves begin a load, and how the state
goes along its life cycle.
-/

namespace TunnelKeeper.Coordinator

/-- The move is a turn of a task. -/
def Move.isTurnOf (t : TaskId) : Move → Bool
  | turn u => u = t
  | _ => false

lemma Move.isTurnOf_iff {t : TaskId} {m : Move} : m.isTurnOf t = true ↔ m = .turn t := by
  cases m with
  | turn u => simp [isTurnOf]
  | _ => simp [isTurnOf]

namespace World

/-- Every move of a run is of a kind, which may depend on the worlds before and after it. -/
def Throughout (P : Move → World → World → Prop) (w : World) : List Move → Prop
  | [] => True
  | m :: moves => ∀ v, m.outcome? w = some v → P m w v ∧ v.Throughout P moves

instance (P : Move → World → World → Prop) [∀ m w w', Decidable (P m w w')] (w : World) :
    (moves : List Move) → Decidable (w.Throughout P moves)
  | [] => isTrue trivial
  | m :: moves =>
    match after : m.outcome? w with
    | none => isTrue fun _ there => nomatch after.symm.trans there
    | some v =>
      have := instDecidableThroughout P v moves
      decidable_of_iff (P m w v ∧ v.Throughout P moves)
        ⟨fun h _ there => Option.some.inj (after.symm.trans there) ▸ h, fun h => h v after⟩

/-- Some move of a run is of a kind. -/
def Sometime (P : Move → World → World → Prop) (w : World) : List Move → Prop
  | [] => False
  | m :: moves => ∃ v, m.outcome? w = some v ∧ (P m w v ∨ v.Sometime P moves)

instance (P : Move → World → World → Prop) [∀ m w w', Decidable (P m w w')] (w : World) :
    (moves : List Move) → Decidable (w.Sometime P moves)
  | [] => isFalse id
  | m :: moves =>
    match after : m.outcome? w with
    | none => isFalse fun ⟨_, there, _⟩ => nomatch after.symm.trans there
    | some v =>
      have := instDecidableSometime P v moves
      decidable_of_iff (P m w v ∨ v.Sometime P moves)
        ⟨fun h => ⟨v, after, h⟩, fun ⟨_, there, h⟩ => Option.some.inj (after.symm.trans there) ▸ h⟩

/-- Some move of a run is of one kind, and all later ones are of another. -/
def Since (P Q : Move → World → World → Prop) (w : World) : List Move → Prop
  | [] => False
  | m :: moves => ∃ v, m.outcome? w = some v ∧
      ((P m w v ∧ v.Throughout Q moves) ∨ v.Since P Q moves)

instance (P Q : Move → World → World → Prop) [∀ m w w', Decidable (P m w w')]
    [∀ m w w', Decidable (Q m w w')] (w : World) : (moves : List Move) → Decidable (w.Since P Q moves)
  | [] => isFalse id
  | m :: moves =>
    match after : m.outcome? w with
    | none => isFalse fun ⟨_, there, _⟩ => nomatch after.symm.trans there
    | some v =>
      have := instDecidableSince P Q v moves
      decidable_of_iff ((P m w v ∧ v.Throughout Q moves) ∨ v.Since P Q moves)
        ⟨fun h => ⟨v, after, h⟩, fun ⟨_, there, h⟩ => Option.some.inj (after.symm.trans there) ▸ h⟩

/-- What happened, the latest first. -/
def history (w : World) : List Event := w.trace.map Prod.snd

/-- A load begins between two worlds. -/
def BeginsLoad (w w' : World) : Prop := w.state.phase.Idle ∧ w'.state = w.state.beginLoad.2

instance (w w' : World) : Decidable (w.BeginsLoad w') :=
  inferInstanceAs (Decidable (_ ∧ _))

/-- The backend is taken away between two worlds. -/
def TakesAway (w w' : World) : Prop := w'.state = w.state.take.2

instance (w w' : World) : Decidable (w.TakesAway w') := inferInstanceAs (Decidable (_ = _))

lemma last_of_after? {m : Move} {moves : List Move} {u v w : World}
    (run : u.after? moves = some v) (more : u.after? (moves ++ [m]) = some w) :
    m.outcome? v = some w := by
  rw [after?_append, run] at more
  obtain ⟨w', last, same⟩ := Option.bind_eq_some_iff.1 (show v.after? [m] = some w from more)
  exact Option.some.inj same ▸ last

/-- What every move of a kind keeps is kept by runs of such moves. -/
theorem Throughout.keeps {P : Move → World → World → Prop} {I : World → Prop}
    (step : ∀ {m : Move} {w w'}, m.outcome? w = some w' → P m w w' → I w → I w')
    {w w' : World} {moves : List Move} (all : w.Throughout P moves)
    (run : w.after? moves = some w') (h : I w) : I w' := by
  induction moves generalizing w with
  | nil => exact Option.some.inj run ▸ h
  | cons m moves ih =>
    obtain ⟨v, first, rest⟩ := Option.bind_eq_some_iff.1 run
    obtain ⟨kind, all⟩ := all v first
    exact ih all rest (step first kind h)

/-- Moves of one kind are of another, if the world that they keep says so. -/
theorem Throughout.implies {P Q : Move → World → World → Prop} {I : World → Prop}
    (step : ∀ {m : Move} {w w'}, m.outcome? w = some w' → P m w w' → I w → I w' ∧ Q m w w')
    {w : World} {moves : List Move} (all : w.Throughout P moves) (h : I w) :
    w.Throughout Q moves := by
  induction moves generalizing w with
  | nil => trivial
  | cons m moves ih =>
    intro v first
    obtain ⟨kind, all⟩ := all v first
    obtain ⟨next, kind⟩ := step first kind h
    exact ⟨kind, ih all next⟩

/-- What is so of each of the moves is so throughout their run. -/
theorem throughout_of_mem {P : Move → Prop} {w : World} {moves : List Move}
    (all : ∀ m ∈ moves, P m) : w.Throughout (fun m _ _ => P m) moves := by
  induction moves generalizing w with
  | nil => trivial
  | cons m moves ih =>
    rw [List.forall_mem_cons] at all
    exact fun v _ => ⟨all.1, ih all.2⟩

/-- What is so of every world is so of every move, if the world says it of the move. -/
theorem throughout_of {P : Move → World → World → Prop} {I : World → Prop}
    (step : ∀ {m : Move} {w w'}, m.outcome? w = some w' → I w → I w' ∧ P m w w') {w : World}
    (h : I w) (moves : List Move) : w.Throughout P moves := by
  induction moves generalizing w with
  | nil => trivial
  | cons m moves ih =>
    intro v first
    obtain ⟨next, kind⟩ := step first h
    exact ⟨kind, ih next⟩

/-- What moves of a kind bring about, and no others, is so if and only if there was such a move. -/
theorem sometime_iff {P : Move → World → World → Prop} {I Q : World → Prop}
    (keep : ∀ {m : Move} {w w'}, m.outcome? w = some w' → I w → I w')
    (step : ∀ {m : Move} {w w'}, m.outcome? w = some w' → I w → (Q w' ↔ Q w ∨ P m w w'))
    {w w' : World} {moves : List Move} (run : w.after? moves = some w') (h : I w) :
    Q w' ↔ Q w ∨ w.Sometime P moves := by
  induction moves generalizing w with
  | nil => rw [← Option.some.inj run, Sometime, or_false]
  | cons m moves ih =>
    obtain ⟨v, first, rest⟩ := Option.bind_eq_some_iff.1 run
    rw [ih rest (keep first h), step first h, or_assoc]
    refine or_congr_right ⟨fun later => ⟨v, first, later⟩, ?_⟩
    rintro ⟨v', first', later⟩
    cases first.symm.trans first'
    exact later

/-- What nothing but moves of a kind brings about, and was not so at first, is due to one. -/
theorem sometime_of {P : Move → World → World → Prop} {I R : World → Prop}
    (keep : ∀ {m : Move} {w w'}, m.outcome? w = some w' → I w → I w')
    (step : ∀ {m : Move} {w w'}, m.outcome? w = some w' → I w → R w' → R w ∨ P m w w')
    {w w' : World} {moves : List Move} (run : w.after? moves = some w') (h : I w) (fresh : ¬ R w)
    (now : R w') : w.Sometime P moves := by
  induction moves generalizing w with
  | nil => exact absurd (Option.some.inj run ▸ now) fresh
  | cons m moves ih =>
    obtain ⟨v, first, rest⟩ := Option.bind_eq_some_iff.1 run
    refine ⟨v, first, ?_⟩
    by_cases there : R v
    · exact .inl ((step first h there).resolve_left fresh)
    · exact .inr (ih rest (keep first h) there)

/-- What a move of one kind brings about, and nobody takes back, is so once there was such a
move. -/
theorem Sometime.brings {P Q : Move → World → World → Prop} {I R : World → Prop}
    (keep : ∀ {m : Move} {w w'}, m.outcome? w = some w' → Q m w w' → I w → I w')
    (bring : ∀ {m : Move} {w w'}, m.outcome? w = some w' → P m w w' → I w → I w' → R w')
    (stay : ∀ {m : Move} {w w'}, m.outcome? w = some w' → I w → R w → R w')
    {w w' : World} {moves : List Move} (once : w.Sometime P moves) (all : w.Throughout Q moves)
    (run : w.after? moves = some w') (h : I w) : R w' := by
  induction moves generalizing w with
  | nil => exact once.elim
  | cons m moves ih =>
    obtain ⟨v, first, rest⟩ := Option.bind_eq_some_iff.1 run
    obtain ⟨kind, all⟩ := all v first
    have next := keep first kind h
    obtain ⟨v', first', now | later⟩ := once
    · cases first.symm.trans first'
      exact (all.keeps (I := fun u => I u ∧ R u)
        (fun move kind h => ⟨keep move kind h.1, stay move h.1 h.2⟩) rest
        ⟨next, bring first now h next⟩).2
    · cases first.symm.trans first'
      exact ih later all rest next

/-- How many moves of a run are of a kind. -/
def tally (P : Move → World → Bool) (w : World) : List Move → Nat
  | [] => 0
  | m :: moves =>
    match m.outcome? w with
    | none => 0
    | some v => (P m w).toNat + v.tally P moves

/-- What moves of one kind add one to, and moves of another kind take one from, is the balance of
the two. -/
theorem add_tally_eq {P Q : Move → World → Bool} {I : World → Prop} {f : World → Nat}
    (keep : ∀ {m : Move} {w w'}, m.outcome? w = some w' → I w → I w')
    (step : ∀ {m : Move} {w w'}, m.outcome? w = some w' → I w →
      f w' + (Q m w).toNat = f w + (P m w).toNat)
    {w w' : World} {moves : List Move} (run : w.after? moves = some w') (h : I w) :
    f w' + w.tally Q moves = f w + w.tally P moves := by
  induction moves generalizing w with
  | nil => rw [← Option.some.inj run, tally, tally]
  | cons m moves ih =>
    obtain ⟨v, first, rest⟩ := Option.bind_eq_some_iff.1 run
    have next := step first h
    have later := ih rest (keep first h)
    simp only [tally, first]
    omega

lemma tally_false (w : World) (moves : List Move) : w.tally (fun _ _ => false) moves = 0 := by
  induction moves generalizing w with
  | nil => rfl
  | cons m moves ih =>
    unfold tally
    split
    · rfl
    · next v _ => rw [ih v, Bool.toNat_false]

/-- The moves of a kind are those that are of another kind too, and those that are not. -/
lemma tally_split (P Q : Move → World → Bool) (w : World) (moves : List Move) :
    w.tally P moves = w.tally (fun m v => P m v && Q m v) moves +
      w.tally (fun m v => P m v && !Q m v) moves := by
  induction moves generalizing w with
  | nil => rfl
  | cons m moves ih =>
    unfold tally
    split
    · rfl
    · next v _ =>
      have later := ih v
      cases P m w <;> cases Q m w <;> simp <;> omega

/-- What each move of a kind adds one to, and no other move changes, counts these moves. -/
theorem eq_add_tally {P : Move → World → Bool} {I : World → Prop} {f : World → Nat}
    (keep : ∀ {m : Move} {w w'}, m.outcome? w = some w' → I w → I w')
    (step : ∀ {m : Move} {w w'}, m.outcome? w = some w' → I w → f w' = f w + (P m w).toNat)
    {w w' : World} {moves : List Move} (run : w.after? moves = some w') (h : I w) :
    f w' = f w + w.tally P moves := by
  have balance := add_tally_eq (Q := fun _ _ => false) keep step run h
  rwa [tally_false] at balance

/-- What moves of one kind bring about, and moves of another keep, has been so all along or since
such a move, if the worlds that there are say so. -/
theorem throughout_or_since_of {P Q : Move → World → World → Prop} {I R : World → Prop}
    (keep : ∀ {m : Move} {w w'}, m.outcome? w = some w' → I w → I w')
    (step : ∀ {m : Move} {w w'}, m.outcome? w = some w' → I w → R w' →
      R w ∧ Q m w w' ∨ P m w w')
    {w w' : World} {moves : List Move} (run : w.after? moves = some w') (h : I w) (now : R w') :
    R w ∧ w.Throughout Q moves ∨ w.Since P Q moves := by
  induction moves generalizing w with
  | nil => exact .inl ⟨Option.some.inj run ▸ now, trivial⟩
  | cons m moves ih =>
    obtain ⟨v, first, rest⟩ := Option.bind_eq_some_iff.1 run
    rcases ih rest (keep first h) with ⟨now, all⟩ | since
    · rcases step first h now with ⟨before, kind⟩ | kind
      · refine .inl ⟨before, fun v' first' => ?_⟩
        cases first.symm.trans first'
        exact ⟨kind, all⟩
      · exact .inr ⟨v, first, .inl ⟨kind, all⟩⟩
    · exact .inr ⟨v, first, .inr since⟩

lemma Since.exists {P Q : Move → World → World → Prop} {w : World} {moves : List Move}
    (since : w.Since P Q moves) : ∃ m v v', P m v v' := by
  induction moves generalizing w with
  | nil => exact since.elim
  | cons m moves ih =>
    obtain ⟨v, first, ⟨now, -⟩ | later⟩ := since
    · exact ⟨m, w, v, now⟩
    · exact ih later

lemma Since.imp {P P' Q : Move → World → World → Prop} {w : World} {moves : List Move}
    (kind : ∀ m v v', P m v v' → P' m v v') (since : w.Since P Q moves) : w.Since P' Q moves := by
  induction moves generalizing w with
  | nil => exact since.elim
  | cons m moves ih =>
    obtain ⟨v, first, ⟨now, all⟩ | later⟩ := since
    · exact ⟨v, first, .inl ⟨kind m w v now, all⟩⟩
    · exact ⟨v, first, .inr (ih later)⟩

lemma Since.or {P P' Q : Move → World → World → Prop} {w : World} {moves : List Move}
    (since : w.Since (fun m v v' => P m v v' ∨ P' m v v') Q moves) :
    w.Since P Q moves ∨ w.Since P' Q moves := by
  induction moves generalizing w with
  | nil => exact since.elim
  | cons m moves ih =>
    obtain ⟨v, first, ⟨now | now, all⟩ | later⟩ := since
    · exact .inl ⟨v, first, .inl ⟨now, all⟩⟩
    · exact .inr ⟨v, first, .inl ⟨now, all⟩⟩
    · exact (ih later).imp (fun since => ⟨v, first, .inr since⟩) fun since => ⟨v, first, .inr since⟩

lemma Sometime.or {P Q : Move → World → World → Prop} {w : World} {moves : List Move}
    (once : w.Sometime (fun m v v' => P m v v' ∨ Q m v v') moves) :
    w.Sometime P moves ∨ w.Sometime Q moves := by
  induction moves generalizing w with
  | nil => exact once.elim
  | cons m moves ih =>
    obtain ⟨v, first, (now | now) | later⟩ := once
    · exact .inl ⟨v, first, .inl now⟩
    · exact .inr ⟨v, first, .inl now⟩
    · exact (ih later).imp (fun once => ⟨v, first, .inr once⟩) fun once => ⟨v, first, .inr once⟩

theorem throughout_or_since {P Q : Move → World → World → Prop} {R : World → Prop}
    (step : ∀ {m : Move} {w w'}, m.outcome? w = some w' → R w' → R w ∧ Q m w w' ∨ P m w w')
    {w w' : World} {moves : List Move} (run : w.after? moves = some w') (h : R w') :
    R w ∧ w.Throughout Q moves ∨ w.Since P Q moves :=
  throughout_or_since_of (I := fun _ => True) (fun _ _ => trivial) (fun move _ => step move) run
    trivial h

end World

/-! ### The state -/

lemma Turned.shift {t : TaskId} {o : Owner} {c d : Outline} {x y : Job}
    (turned : Turned t o c x d y) : c.state.Shift d.state := by
  cases turned with
  | once deed => exact deed.shift
  | andLost _ deed => exact deed.shift

lemma Step.shift {calm : Prop} {c d : Outline} (step : Step calm c d) : c.state.Shift d.state := by
  cases step with
  | turn own turned ending =>
    cases ending with
    | pass => exact turned.shift
    | finish => exact turned.shift
  | outside happened => cases happened <;> exact .same

/-- Every move moves the state along the life cycle. -/
theorem Move.shift {m : Move} {w w' : World} (move : m.outcome? w = some w') :
    w.state.Shift w'.state := (Move.step move).shift

lemma Reaches.generation_le {w w' : World} (run : Reaches w w') :
    w.state.generation ≤ w'.state.generation :=
  run.keeps (P := fun v => w.state.generation ≤ v.state.generation)
    (fun move le => Nat.le_trans le (Move.shift move).generation_le) (Nat.le_refl _)

/-! ### A run -/

/-- A first backend comes up and is connected: task 0 loads it, 1 is the handler, 2 sets it up,
3 connects it, and 4 is its guard. -/
def firstBackend : List Move :=
  [.ask .load, .turn 0, .turn 1, .turn 0, .turn 0, .turn 2, .turn 2, .turn 2, .build, .turn 2,
    .turn 2, .ask .connect, .turn 3, .turn 3, .turn 3, .turn 3, .turn 3]

/-- After that, the connection is lost, and the guard is about to connect it again. -/
def reconnecting : List Move :=
  [.turn 4, .drop none, .turn 4, .time 1000, .turn 4, .turn 4, .turn 4]

end TunnelKeeper.Coordinator
