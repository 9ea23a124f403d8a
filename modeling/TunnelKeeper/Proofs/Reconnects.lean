import TunnelKeeper.Proofs.Footprints
import TunnelKeeper.Proofs.Hangups
import TunnelKeeper.Proofs.Settings

/-!
How a guard paces its attempts to connect. Each of them follows one signal that the connection is
gone, and a sleep for a delay of whole seconds from the window of the settings. So a window whose
ends have parts of a second is kept by the whole seconds of its ends only.
-/

namespace TunnelKeeper

/-! ### Delays -/

/-- The milliseconds of a timer that is set for more than the clock can count. -/
def thirtyYears : Nat := 946080000000

namespace Jitter

/-- The timer of a delay fires within the window, or after thirty years if that is sooner. -/
lemma timerMillis_sample (window : Jitter) (draw : Nat) :
    (window.first * 1000 ≤ (window.sample draw).timerMillis ∨
        thirtyYears ≤ (window.sample draw).timerMillis) ∧
      (window.sample draw).timerMillis ≤ window.last * 1000 := by
  obtain ⟨least, most⟩ := window.sample_secs draw
  have whole : (window.sample draw).nanos = 0 := rfl
  have power : Nat.pow 2 63 = 9223372036854775808 := Nat.pow_eq
  unfold Duration.timerMillis Duration.ceilMillis thirtyYears
  rw [whole, Fin.val_zero]
  split <;> omega

end Jitter

lemma Config.Valid.first_reconnectJitter {c : Config} (valid : c.Valid) :
    c.reconnectJitter.first = c.reconnectJitter.min.secs.toNat := by
  obtain ⟨-, order, -⟩ := valid_iff.1 valid
  have order : ¬ c.reconnectJitter.max.toNanos < c.reconnectJitter.min.toNanos := order
  have part := c.reconnectJitter.max.nanos.isLt
  unfold Duration.toNanos at order
  exact Nat.min_eq_left (show c.reconnectJitter.min.secs.toNat ≤ c.reconnectJitter.max.secs.toNat by
    omega)

namespace Coordinator

open World Cooperative

/-! ### What a guard does -/

/-- What a guard does that takes its turns: it tells the host that the connection is gone, or it
begins an attempt to connect, each with its time. -/
inductive GuardAct where
  | tells (told : Nat)
  | tries (tried : Nat)
  deriving DecidableEq, Repr

/-- Signals and attempts alternate, a signal first, and the times of a signal and of the attempt
that follows it are related. If a signal waits for its attempt, `told` is its time. -/
def GuardAct.Alternate (P : Nat → Nat → Prop) (told : Option Nat) : List GuardAct → Prop
  | [] => True
  | tells now :: acts => told = none ∧ Alternate P (some now) acts
  | tries now :: acts => (∃ past, told = some past ∧ P past now) ∧ Alternate P none acts

lemma GuardAct.Alternate.and {P Q : Nat → Nat → Prop} {told : Option Nat} {acts : List GuardAct}
    (h : Alternate P told acts) (h' : Alternate Q told acts) :
    Alternate (fun told tried => P told tried ∧ Q told tried) told acts := by
  induction acts generalizing told with
  | nil => trivial
  | cons act acts ih =>
    cases act with
    | tells now => exact ⟨h.1, ih h.2 h'.2⟩
    | tries now =>
      obtain ⟨⟨past, rfl, one⟩, rest⟩ := h
      obtain ⟨⟨_, ⟨⟩, other⟩, rest'⟩ := h'
      exact ⟨⟨past, rfl, one, other⟩, ih rest rest'⟩

/-- The attempt that a guard begins when it has slept, unless it has been cancelled. -/
def GuardPoint.begins (cancelled : Bool) (now : Nat) : GuardPoint → List GuardAct
  | sleep _ => if cancelled then [] else [.tries now]
  | _ => []

namespace World

/-- What a guard does in a move, as far as it is a turn of the guard: the host has heard of it in
the world after the move. -/
def guardActsIn (t : TaskId) (m : Move) (w v : World) : List GuardAct :=
  match m.isTurnOf t, w.schedule.point? t with
  | true, some (.guard _ p) => p.begins (w.isCancelled t) w.now ++
    List.replicate (v.disconnections - w.disconnections) (.tells v.now)
  | _, _ => []

/-- What a guard does in a run. -/
def guardActs (t : TaskId) (w : World) : List Move → List GuardAct
  | [] => []
  | m :: moves =>
    match m.outcome? w with
    | none => []
    | some v => w.guardActsIn t m v ++ v.guardActs t moves

/-- The time at which the timer of a guard that sleeps fires. -/
def guardWakes? (w : World) (t : TaskId) : Option Nat :=
  match w.schedule.point? t with
  | some (.guard _ (.sleep due)) => some due
  | _ => none

/-- A guard does not sleep on for more than a millisecond after its timer has fired. -/
def GuardOnTime (t : TaskId) (w : World) : Prop := ∀ due ∈ w.guardWakes? t, w.now ≤ due + 1

instance (t : TaskId) (w : World) : Decidable (w.GuardOnTime t) :=
  inferInstanceAs (Decidable (∀ due ∈ w.guardWakes? t, _))

end World

variable {t : TaskId} {g : Nat} {w w' : World} {m : Move} {told : Option Nat}

namespace Guard

/-- The guard sleeps for a delay that is drawn from the window of the settings. -/
def FallsAsleep (turn : Turn GuardPoint Unit) : Prop :=
  ∃ draw, turn.2 = .wait (.sleep
    (turn.1.now + (turn.1.config.reconnectJitter.sample draw).timerMillis))

lemma fallsAsleep_lost (w : World) : FallsAsleep (lost w) := ⟨w.draws w.drawn, rfl⟩

/-- A guard falls asleep when it finds the connection down, and then only. -/
lemma asleep_of_round (w : World) : if w.findsLost g then FallsAsleep (round g w) else
    ∀ due, (round g w).2 ≠ .wait (.sleep due) := by
  unfold round World.findsLost
  cases ready : w.state.activeFor? g with
  | none => simp
  | some b =>
    cases up : w.isConnected b.tunnel with
    | true => simp [up]
    | false => simpa [up] using fallsAsleep_lost w

lemma asleep_of_attempting {turn : Turn Attempt Result}
    (ok : (∃ a, turn.2 = .wait a) ∨ turn.2 = .done .ok) :
    if !turn.1.isCancelled t && turn.2.isDone && turn.1.findsLost g
    then FallsAsleep (attempting t g turn)
    else ∀ due, (attempting t g turn).2 ≠ .wait (.sleep due) := by
  obtain ⟨v, progress⟩ := turn
  obtain ⟨a, rfl : progress = _⟩ | (rfl : progress = _) := ok
  · simp [attempting, Progress.isDone]
  · cases cancelled : v.isCancelled t with
    | true => simp [attempting, cancelled]
    | false => simpa [attempting, cancelled, Progress.isDone] using asleep_of_round (g := g) v

lemma awake_of_sleep (due : Nat) (w : World) (later : Nat) :
    (resume t g (.sleep due) w).2 ≠ .wait (.sleep later) := by
  unfold resume
  cases cancelled : w.isCancelled t with
  | true => simp
  | false =>
    unfold Connect.start
    cases ready : w.state.active? with
    | none => simp [attempting]
    | some b =>
      cases up : w.isConnected b.tunnel with
      | false => simp [up, attempting]
      | true =>
        have round := asleep_of_round (g := g) w
        rw [findsLost_of_connected ready up] at round
        simpa [up, attempting, cancelled] using round later

/-- In its turn, a guard falls asleep if it reports that the connection is gone, and then only. -/
lemma asleep_of_resume (p : GuardPoint) (w : World) : if p.reports t g w
    then FallsAsleep (resume t g p w) else ∀ due, (resume t g p w).2 ≠ .wait (.sleep due) := by
  cases p with
  | start => exact asleep_of_round w
  | watch n =>
    unfold resume GuardPoint.reports
    cases cancelled : w.isCancelled t with
    | true => simp
    | false => simpa [cancelled] using fallsAsleep_lost w
  | sleep due => exact awake_of_sleep due w
  | attempt a =>
    have deed := Connect.deed_resume t (.guard g) a w
    have kept : (Connect.resume t a w).1.isCancelled t = w.isCancelled t :=
      congrFun deed.attempt_keeps.2 t
    have asleep := asleep_of_attempting (t := t) (g := g) (Connect.wait_or_ok t a w)
    rw [kept] at asleep
    exact asleep

end Guard

/-! ### Turns -/

/-- If a signal waits for its attempt, the guard sleeps for a delay from the window, or it is gone;
and otherwise it does not sleep. -/
def World.Paces (t : TaskId) (w : World) : Option Nat → Prop
  | none => ∀ g due, w.schedule.point? t ≠ some (.guard g (.sleep due))
  | some told => t < w.schedule.next ∧ ∀ task, w.schedule.point? t = some task →
    ∃ g draw, task = .guard g
      (.sleep (told + (w.config.reconnectJitter.sample draw).timerMillis))

lemma Move.point?_of_guard {p : GuardPoint} (turn : (Move.turn t).outcome? w = some w')
    (here : w.schedule.point? t = some (.guard g p)) :
    w'.now = (Guard.resume t g p w).1.now ∧ w'.config = (Guard.resume t g p w).1.config ∧
      ∀ task, w'.schedule.point? t = some task →
        ∃ q, (Guard.resume t g p w).2 = .wait q ∧ task = .guard g q := by
  obtain ⟨task, here', -, rfl⟩ := exists_of_turn turn
  cases here.symm.trans here'
  have resumed : (Task.resume t (.guard g p) w).1 = (Guard.resume t g p w).1 := Task.goOn_fst _ _
  refine ⟨?_, ?_, fun task there => ?_⟩
  · rw [now_advance, resumed]
  · rw [advance_eq, ← resumed]
  · rw [point?_advance] at there
    exact Task.exists_wait_of_goOn there

namespace World

lemma guardWakes?_of_sleep {due : Nat} (here : w.schedule.point? t = some (.guard g (.sleep due))) :
    w.guardWakes? t = some due := by
  rw [guardWakes?, here]

lemma guardActsIn_of_ne (other : m ≠ .turn t) : w.guardActsIn t m w' = [] := by
  have turn : m.isTurnOf t = false :=
    Bool.eq_false_iff.2 fun mine => other (Move.isTurnOf_iff.1 mine)
  rw [guardActsIn, turn]

lemma guardActsIn_of_guard {p : GuardPoint} (turn : (Move.turn t).outcome? w = some w')
    (here : w.schedule.point? t = some (.guard g p)) :
    w.guardActsIn t (.turn t) w' = p.begins (w.isCancelled t) w.now ++
      if p.reports t g w then [.tells w'.now] else [] := by
  have heard := Move.disconnections turn
  rw [Move.reports, here, Option.any_some] at heard
  have heard : w'.disconnections - w.disconnections = (p.reports t g w).toNat := by
    rw [heard, Nat.add_sub_cancel_left]
    rfl
  rw [guardActsIn, Move.isTurnOf_iff.2 rfl, here]
  dsimp only
  rw [heard]
  cases p.reports t g w <;> rfl

lemma guardActsIn_of_other {task : Task} (here : w.schedule.point? t = some task)
    (other : task.owner.isGuard = false) : w.guardActsIn t (.turn t) w' = [] := by
  rw [guardActsIn, Move.isTurnOf_iff.2 rfl, here]
  cases task with
  | guard => cases other
  | _ => rfl

namespace Paces

lemma of_move (h : w.Paces t told) (back : Background w.outline) (move : m.outcome? w = some w')
    (other : m ≠ .turn t) (config : w'.config = w.config) : w'.Paces t told := by
  cases told with
  | none => exact fun g due there => h g due (Move.guard_before move there nofun other)
  | some told =>
    obtain ⟨old, asleep⟩ := h
    refine ⟨Nat.lt_of_lt_of_le old (Move.next_le move), fun task there => ?_⟩
    cases here : w.schedule.point? t with
    | none => cases (Move.gone back move old here).symm.trans there
    | some task' =>
      obtain ⟨g, draw, rfl⟩ := asleep task' here
      cases (Move.point?_kept move here other rfl).symm.trans there
      exact ⟨g, draw, by rw [config]⟩

lemma of_awake {p : GuardPoint} (h : w.Paces t none) (turn : (Move.turn t).outcome? w = some w')
    (old : t < w.schedule.next) (here : w.schedule.point? t = some (.guard g p)) :
    w.guardActsIn t (.turn t) w' = (if p.reports t g w then [.tells w'.now] else []) ∧
      w'.Paces t (if p.reports t g w then some w'.now else none) := by
  have begins : p.begins (w.isCancelled t) w.now = [] := by
    cases p with
    | sleep due => exact absurd here (h g due)
    | _ => rfl
  refine ⟨by rw [guardActsIn_of_guard turn here, begins, List.nil_append], ?_⟩
  obtain ⟨now, config, came⟩ := Move.point?_of_guard turn here
  have asleep := Guard.asleep_of_resume (t := t) (g := g) p w
  split at asleep
  · next reports =>
    obtain ⟨draw, asleep⟩ := asleep
    rw [if_pos reports]
    refine ⟨Nat.lt_of_lt_of_le old (Move.next_le turn), fun task there => ?_⟩
    obtain ⟨q, goesOn, rfl⟩ := came task there
    cases asleep.symm.trans goesOn
    exact ⟨g, draw, by rw [now, config]⟩
  · next silent =>
    rw [if_neg silent]
    intro g' due there
    obtain ⟨q, goesOn, same⟩ := came _ there
    cases same
    exact asleep due goesOn

/-- A guard that has slept begins an attempt, unless it has been cancelled: then it is over. -/
lemma of_asleep {past due : Nat} (h : w.Paces t (some past))
    (turn : (Move.turn t).outcome? w = some w')
    (here : w.schedule.point? t = some (.guard g (.sleep due))) :
    w.isCancelled t = true ∧ w.guardActsIn t (.turn t) w' = [] ∧ w'.Paces t (some past) ∨
      w.isCancelled t = false ∧ w.guardActsIn t (.turn t) w' = [.tries w.now] ∧
        w'.Paces t none := by
  have acts := guardActsIn_of_guard turn here
  obtain ⟨-, -, came⟩ := Move.point?_of_guard turn here
  cases cancelled : w.isCancelled t with
  | true =>
    refine .inl ⟨rfl, by simpa [cancelled, GuardPoint.begins, GuardPoint.reports] using acts,
      Nat.lt_of_lt_of_le h.1 (Move.next_le turn), fun task there => ?_⟩
    obtain ⟨q, goesOn, -⟩ := came task there
    rw [Guard.resume, if_pos cancelled] at goesOn
    cases goesOn
  | false =>
    refine .inr ⟨rfl, by simpa [cancelled, GuardPoint.begins, GuardPoint.reports] using acts,
      fun g' later there => ?_⟩
    obtain ⟨q, goesOn, same⟩ := came _ there
    cases same
    exact Guard.awake_of_sleep due w later goesOn

end Paces

/-! ### Runs -/

variable {P : Nat → Nat → Prop} {Q : World → Prop} {window : Jitter}

/-- What is so of a sleep that ends when its timer has fired. `Q` holds of the world in which it
ends. -/
def Rises (t : TaskId) (window : Jitter) (Q : World → Prop) (P : Nat → Nat → Prop) : Prop :=
  ∀ (v : World) (told draw : Nat), Q v →
    v.guardWakes? t = some (told + (window.sample draw).timerMillis) →
      told + (window.sample draw).timerMillis ≤ v.now → P told v.now

/-- Whatever alternates from where a turn of the guard leads, alternates with what the guard does in
that turn. -/
lemma Paces.turn (h : w.Paces t told) (back : Background w.outline) (holds : Q w)
    (config : w.config.reconnectJitter = window) (risen : Rises t window Q P)
    (turn : (Move.turn t).outcome? w = some w') :
    ∃ next, w'.Paces t next ∧ ∀ acts, GuardAct.Alternate P next acts →
      GuardAct.Alternate P told (w.guardActsIn t (.turn t) w' ++ acts) := by
  obtain ⟨task, here, ready, -⟩ := exists_of_turn turn
  have old := back.sound.lt_next (outline_owner here)
  cases told with
  | none =>
    cases guard : task.owner.isGuard with
    | true =>
      cases task with
      | guard g p =>
        obtain ⟨acts, paces⟩ := h.of_awake turn old here
        refine ⟨_, paces, fun rest alternate => ?_⟩
        rw [acts]
        cases reports : p.reports t g w with
        | true => exact ⟨rfl, by simpa [reports] using alternate⟩
        | false => simpa [reports] using alternate
      | _ => cases guard
    | false =>
      refine ⟨none, fun g due there => ?_, fun rest alternate => ?_⟩
      · obtain ⟨p, here', -⟩ := Move.guard_goes_on turn there
        cases here.symm.trans here'
        cases guard
      · rwa [guardActsIn_of_other here guard]
  | some past =>
    obtain ⟨g, draw, rfl⟩ := h.2 task here
    rcases h.of_asleep turn here with ⟨-, acts, paces⟩ | ⟨live, acts, paces⟩
    · exact ⟨_, paces, fun rest alternate => by rwa [acts]⟩
    · refine ⟨_, paces, fun rest alternate => ?_⟩
      have fired : past + (w.config.reconnectJitter.sample draw).timerMillis ≤ w.now := by
        rcases Bool.or_eq_true_iff.1 ready with arrived | cancelled
        · exact of_decide_eq_true arrived
        · cases live.symm.trans (Bool.and_eq_true_iff.1 cancelled).2
      rw [config] at fired here
      rw [acts]
      exact ⟨⟨past, rfl, risen w past draw holds (guardWakes?_of_sleep here) fired⟩, alternate⟩

/-- What a guard does in a run alternates, if `Q` holds of all worlds of the run. -/
lemma alternate_guardActs {moves : List Move} (risen : Rises t window Q P)
    (back : Background w.outline) (config : w.config.reconnectJitter = window)
    (paces : w.Paces t told) (holds : Q w) (all : w.Throughout (fun _ _ v => Q v) moves) :
    GuardAct.Alternate P told (w.guardActs t moves) := by
  induction moves generalizing w told with
  | nil => trivial
  | cons m moves ih =>
    rw [guardActs]
    cases move : m.outcome? w with
    | none => trivial
    | some v =>
      obtain ⟨next, later⟩ := all v move
      have same : v.config = w.config := (fixtures_of_move move).2
      have back' := back.step (Move.step move)
      have config' : v.config.reconnectJitter = window := by rw [same, config]
      dsimp only
      by_cases mine : m = .turn t
      · subst mine
        obtain ⟨told', paces', goesOn⟩ := paces.turn back holds config risen move
        exact goesOn _ (ih back' config' paces' next later)
      · rw [guardActsIn_of_ne mine, List.nil_append]
        exact ih back' config' (paces.of_move back move mine same) next later

end World

/-- **A guard waits before each attempt to connect.** In settings that are usable, it sends one
signal that the connection is gone before each of its attempts and no other; and between the signal
and the attempt there is at least the lower end of the window in whole seconds, or thirty years if
that is less. If the guard never sleeps on for more than a millisecond after its timer has fired,
there is at most the upper end in whole seconds, and that millisecond. -/
theorem guard_waits_before_attempts {s : Setting} (valid : s.config.Valid) (t : TaskId)
    (moves : List Move) :
    GuardAct.Alternate (fun told tried =>
        told + min (s.config.reconnectJitter.min.secs.toNat * 1000) thirtyYears ≤ tried)
      none (s.world.guardActs t moves) ∧
    (s.world.Throughout (fun _ _ v => v.GuardOnTime t) moves →
      GuardAct.Alternate (fun told tried =>
          tried ≤ told + s.config.reconnectJitter.max.secs.toNat * 1000 + 1)
        none (s.world.guardActs t moves)) := by
  have awake : s.world.Paces t none := nofun
  refine ⟨?_, fun onTime => ?_⟩
  · refine alternate_guardActs (Q := fun _ => True) ?_ s.background rfl awake trivial
      (throughout_of (I := fun _ => True) (fun _ _ => ⟨trivial, trivial⟩) trivial moves)
    intro v told draw _ _ fired
    have least := (s.config.reconnectJitter.timerMillis_sample draw).1
    rw [valid.first_reconnectJitter] at least
    have fired : told + (s.config.reconnectJitter.sample draw).timerMillis ≤ v.now := fired
    show told + min _ _ ≤ v.now
    omega
  · refine alternate_guardActs (Q := fun v => v.GuardOnTime t) ?_ s.background rfl awake nofun
      onTime
    intro v told draw punctual wakes _
    have most := (s.config.reconnectJitter.timerMillis_sample draw).2
    have last : s.config.reconnectJitter.last = s.config.reconnectJitter.max.secs.toNat := rfl
    have late : v.now ≤ told + (s.config.reconnectJitter.sample draw).timerMillis + 1 :=
      punctual _ wakes
    rw [last] at most
    show v.now ≤ _
    omega

/-- Each draw is one more than the draw before. -/
def Setting.countingDraws : Setting where
  draws := id

/-- The connection of a first backend is lost twice, and the second time its guard sleeps on for a
millisecond. -/
def reconnectedTwice : List Move :=
  firstBackend ++ [.turn 4, .drop none, .turn 4, .time 2000, .turn 4, .turn 4, .turn 4, .turn 4,
    .drop none, .turn 4, .time 5001, .turn 4]

/-- The guard is to sleep for two seconds first and for three seconds then. -/
theorem reconnecting_guard_waits : Setting.countingDraws.config.Valid ∧
    Setting.countingDraws.world.Throughout (fun _ _ v => v.GuardOnTime 4) reconnectedTwice ∧
    Setting.countingDraws.world.guardActs 4 reconnectedTwice =
      [.tells 0, .tries 2000, .tells 2000, .tries 5001] ∧
    GuardAct.Alternate (fun told tried => told + 1000 ≤ tried ∧ tried ≤ told + 15000 + 1) none
      [.tells 0, .tries 2000, .tells 2000, .tries 5001] := by
  have valid : Setting.countingDraws.config.Valid := by decide +kernel
  have onTime : Setting.countingDraws.world.Throughout (fun _ _ v => v.GuardOnTime 4)
      reconnectedTwice := by decide +kernel
  have acts : Setting.countingDraws.world.guardActs 4 reconnectedTwice =
    [.tells 0, .tries 2000, .tells 2000, .tries 5001] := by decide +kernel
  obtain ⟨least, most⟩ := guard_waits_before_attempts valid 4 reconnectedTwice
  have lower : min (Setting.countingDraws.config.reconnectJitter.min.secs.toNat * 1000)
    thirtyYears = 1000 := by decide +kernel
  have upper : Setting.countingDraws.config.reconnectJitter.max.secs.toNat * 1000 = 15000 := by
    decide +kernel
  rw [acts, lower] at least
  rw [acts, upper] at most
  exact ⟨valid, onTime, acts, least.and (most onTime)⟩

/-- The ends of the window for reconnecting have parts of a second. -/
def Setting.unevenWindow : Setting where
  config := { reconnectJitter := ⟨⟨1, ⟨500000000, by decide⟩⟩, ⟨1, ⟨900000000, by decide⟩⟩⟩ }

/-- The guard begins its attempt a second after the signal, before the lower end of the window. -/
theorem part_of_second_is_not_waited : Setting.unevenWindow.config.Valid ∧
    Setting.unevenWindow.world.guardActs 4 (firstBackend ++ reconnecting) =
      [.tells 0, .tries 1000] ∧
    1000 * 1000000 < Setting.unevenWindow.config.reconnectJitter.min.toNanos :=
  ⟨by decide, rfl, by decide⟩

end Coordinator

end TunnelKeeper
