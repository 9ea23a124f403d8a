import TunnelKeeper.Proofs.Midnights
import TunnelKeeper.Proofs.Points
import TunnelKeeper.Proofs.Runs
import Mathlib.Data.List.Chain

/-!
The nights of the handler. It sleeps until some time after the next midnight, checks the certificate
and falls asleep again, so as long as no check lasts until the next day and no delay does, each day
after the first has exactly one check.
-/

namespace TunnelKeeper

/-! ### Falling asleep and rising -/

/-- When the handler falls asleep, and the draw for its delay. -/
structure Bedtime where
  bed : Instant
  draw : Nat
  deriving DecidableEq, Repr

/-- How long the handler is to sleep. -/
def Bedtime.delay? (zone : Zone) (window : Jitter) (b : Bedtime) : Option Duration := do
  (← b.bed.untilNextMidnight? zone).add? (window.sample b.draw)

/-- A sleep of the handler, and when it rises for its next check. -/
structure Night extends Bedtime where
  rise : Instant
  deriving DecidableEq, Repr

namespace Night

/-- The handler rises when the timer for its delay has fired. -/
structure Slept (zone : Zone) (window : Jitter) (n : Night) : Prop where
  bed : n.bed.nanos < 1000000000
  rise : n.rise.nanos < 1000000000
  timer : ∃ delay, n.delay? zone window = some delay ∧
    (delay.timerMillis * 1000000 : Int) ≤ n.rise.nanosSince n.bed

/-- It rises a millisecond after its delay at the latest. -/
def OnTime (zone : Zone) (window : Jitter) (n : Night) : Prop :=
  ∀ delay, n.delay? zone window = some delay →
    n.rise.nanosSince n.bed ≤ delay.toNanos + 1000000

instance (zone : Zone) (window : Jitter) (n : Night) : Decidable (n.OnTime zone window) :=
  inferInstanceAs (Decidable (∀ delay ∈ n.delay? zone window, _))

/-- It rises on a day, at the delay that was drawn after its midnight, or a millisecond later at
most. -/
structure ChecksOn (zone : Zone) (window : Jitter) (day : Int) (n : Night) : Prop where
  date : n.rise.localDay zone = day
  time : ∃ midnight, midnight.IsMidnight zone day ∧
    (window.sample n.draw).toNanos ≤ n.rise.nanosSince midnight ∧
    n.rise.nanosSince midnight ≤ (window.sample n.draw).toNanos + 1000000

end Night

namespace Instant

variable {now : Instant} {offset day : Int}

/-- With an offset of less than a day, every day of the calendar but the first begins at an instant of
the calendar. -/
lemma isMidnight_fixed (small : -86400 < offset ∧ offset < 86400) (first : Date.minDay < day)
    (last : day ≤ Date.maxDay) :
    IsMidnight (.fixed offset) day ⟨day * 86400 - offset, 0⟩ := by
  refine ⟨⟨?_, ?_, show 0 < 2000000000 by decide⟩, ?_, rfl⟩
  · show minSecs ≤ day * 86400 - offset
    unfold minSecs
    omega
  · show day * 86400 - offset ≤ maxSecs
    unfold maxSecs
    omega
  · show day * 86400 - offset + offset = day * 86400
    omega

lemma untilNextMidnight?_fixed (small : -86400 < offset ∧ offset < 86400)
    (plain : now.nanos < 1000000000) (dated : now.HasTomorrow (.fixed offset)) :
    ∃ left, now.untilNextMidnight? (.fixed offset) = some left ∧
      (left.toNanos : Int) = ((now.localDay (.fixed offset) + 1) * 86400 - offset - now.secs) *
        1000000000 - now.nanos := by
  have midnight := isMidnight_fixed small (Int.lt_add_one_of_le dated.today) dated.tomorrow
  have first (other : Int) (same : (Zone.fixed offset).localSecs other =
      (now.localDay (.fixed offset) + 1) * 86400) :
      (now.localDay (.fixed offset) + 1) * 86400 - offset ≤ other := by
    have same : other + offset = (now.localDay (.fixed offset) + 1) * 86400 := same
    omega
  have awaited := (nextMidnight?_eq_some_iff dated.tomorrow).2 ⟨midnight, first⟩
  have day : now.localDay (.fixed offset) = (now.secs + offset) / 86400 := rfl
  have later := midnight.lt_iff.2 (show now.secs <
    (now.localDay (.fixed offset) + 1) * 86400 - offset by omega)
  refine ⟨_, dated.untilNextMidnight?_eq, ?_⟩
  simp only [awaited]
  rw [toNanos_timeUntil plain midnight later ?_, midnight.nanosSince plain]
  show (now.localDay (.fixed offset) + 1) * 86400 - offset - now.secs < UInt64.size
  rw [show UInt64.size = 18446744073709551616 from rfl]
  omega

end Instant

/-! ### Timers -/

namespace Duration

lemma toNanos_of_ofNanos? {n : Nat} {d : Duration} (made : ofNanos? n = some d) : d.toNanos = n := by
  obtain ⟨fits, -⟩ := Option.ite_none_right_eq_some.1 made
  obtain ⟨_, same, long⟩ := exists_ofNanos? fits
  cases made.symm.trans same
  exact long

/-- No timer fires before its time, unless it is set for more than the clock can count. -/
lemma toNanos_le_timerMillis {d : Duration} (short : d.toNanos < 1000000000 * 1000000) :
    d.toNanos ≤ d.timerMillis * 1000000 := by
  unfold toNanos at short ⊢
  have few : ¬ Nat.pow 2 63 - 1 ≤ d.secs.toNat := by
    have : Nat.pow 2 63 = 9223372036854775808 := Nat.pow_eq
    omega
  rw [timerMillis, if_neg few, ceilMillis]
  omega

end Duration

namespace Jitter

lemma exists_sample {window : Jitter} (short : window.max < .ofSecs 86400) (draw : Nat) :
    ∃ secs < 86400, (window.sample draw).toNanos = secs * 1000000000 := by
  have short : window.max.toNanos < 86400 * 1000000000 := short
  unfold Duration.toNanos at short
  have drawn := (window.sample_secs draw).2
  unfold last at drawn
  refine ⟨(window.sample draw).secs.toNat, by omega, ?_⟩
  rw [Duration.toNanos, show (window.sample draw).nanos = 0 from rfl]
  omega

end Jitter

/-! ### Nights by the clock -/

namespace Night

variable {n : Night} {window : Jitter} {offset : Int}

lemma Slept.checksOn (slept : n.Slept (.fixed offset) window)
    (onTime : n.OnTime (.fixed offset) window) (small : -86400 < offset ∧ offset < 86400)
    (short : window.max < .ofSecs 86400) (tomorrow : n.bed.localDay (.fixed offset) < Date.maxDay) :
    n.ChecksOn (.fixed offset) window (n.bed.localDay (.fixed offset) + 1) := by
  obtain ⟨bed, rise, delay, set, fired⟩ := slept
  have late := onTime delay set
  obtain ⟨left, until', sum⟩ := Option.bind_eq_some_iff.1 set
  have today : Date.minDay ≤ n.bed.localDay (.fixed offset) := by
    obtain ⟨⟨least, -⟩, -⟩ := Option.ite_none_right_eq_some.1 until'
    unfold Instant.minSecs at least
    unfold Instant.localDay Zone.localSecs
    omega
  obtain ⟨left', same, long⟩ := Instant.untilNextMidnight?_fixed small bed ⟨today, tomorrow⟩
  cases until'.symm.trans same
  obtain ⟨secs, few, drawn⟩ := Jitter.exists_sample short n.draw
  have total := Duration.toNanos_of_ofNanos? sum
  have day : n.bed.localDay (.fixed offset) = (n.bed.secs + offset) / 86400 := rfl
  have early := Duration.toNanos_le_timerMillis (d := delay) (by omega)
  rw [Instant.nanosSince_eq rise bed] at fired late
  refine ⟨?_, _, Instant.isMidnight_fixed small (Int.lt_add_one_of_le today) tomorrow, ?_⟩
  · show (n.rise.secs + offset) / 86400 = _
    omega
  · rw [Instant.nanosSince_eq rise (show 0 < 1000000000 by decide), drawn]
    dsimp only
    omega

/-- Nights on time, each of which begins on the day on which the one before ended, end on one day
after the other. -/
lemma checksOn_of_isChain {nights : List Night} {day : Int}
    (slept : ∀ n ∈ nights, n.Slept (.fixed offset) window)
    (onTime : ∀ n ∈ nights, n.OnTime (.fixed offset) window)
    (chain : nights.IsChain fun n next =>
      next.bed.localDay (.fixed offset) = n.rise.localDay (.fixed offset))
    (first : ∀ n ∈ nights.head?, n.bed.localDay (.fixed offset) = day)
    (small : -86400 < offset ∧ offset < 86400) (short : window.max < .ofSecs 86400)
    (last : day + nights.length ≤ Date.maxDay) (i : Nat) (inside : i < nights.length) :
    nights[i].ChecksOn (.fixed offset) window (day + i + 1) := by
  induction nights generalizing day i with
  | nil => cases inside
  | cons n rest ih =>
    rw [List.forall_mem_cons] at slept onTime
    rw [List.isChain_cons] at chain
    obtain rfl := first n rfl
    rw [List.length_cons] at last inside
    have checked := slept.1.checksOn onTime.1 small short (by omega)
    cases i with
    | zero =>
      rw [List.getElem_cons_zero, Int.natCast_zero, Int.add_zero]
      exact checked
    | succ i =>
      have next : ∀ m ∈ rest.head?, m.bed.localDay (.fixed offset) =
          n.bed.localDay (.fixed offset) + 1 := fun m there =>
        (chain.1 m there).trans checked.date
      have later := ih slept.2 onTime.2 chain.2 next (by omega) i (by omega)
      rw [List.getElem_cons_succ]
      rwa [show n.bed.localDay (.fixed offset) + (i + 1 : Nat) + 1 =
        n.bed.localDay (.fixed offset) + 1 + i + 1 by omega]

end Night

namespace Coordinator

open World Cooperative

/-! ### The wall clock -/

namespace World

variable {w w' : World}

lemma nanos_clockAfter (w : World) (ms : Int) : (w.clockAfter ms).nanos < 1000000000 := by
  have rest : (w.startMillis + ms) % 1000 < 1000 := Int.emod_lt_of_pos _ (by omega)
  show ((w.startMillis + ms) % 1000).toNat * 1000000 + w.startNanos < 1000000000
  omega

lemma nanosSince_clockAfter (w : World) (a b : Int) :
    (w.clockAfter a).nanosSince (w.clockAfter b) = (a - b) * 1000000 := by
  rw [Instant.nanosSince_eq (w.nanos_clockAfter a) (w.nanos_clockAfter b)]
  show ((w.startMillis + a) / 1000 - (w.startMillis + b) / 1000) * 1000000000 +
    ((((w.startMillis + a) % 1000).toNat * 1000000 + w.startNanos : Nat) -
      (((w.startMillis + b) % 1000).toNat * 1000000 + w.startNanos : Nat) : Int) = _
  omega

end World

/-! ### The nights of a run -/

/-- The wall clock is set. -/
def Move.setsClock : Move → Bool
  | clock _ => true
  | _ => false

namespace World

/-- The bedtime of a handler that has just fallen asleep. -/
def bedtime (w : World) : Bedtime := ⟨w.clock, w.draws (w.drawn - 1)⟩

/-- The time at which the timer of a handler that sleeps fires. -/
def wakeTime? (w : World) (t : TaskId) : Option Nat :=
  match w.schedule.point? t with
  | some (.handler (.sleep due)) => some due
  | _ => none

/-- The nights of a handler, where `b` is its bedtime if it sleeps. A night ends when the handler
begins to check the certificate. -/
def nightsFrom (t : TaskId) (b : Bedtime) (w : World) : List Move → List Night
  | [] => []
  | m :: moves =>
    match m.outcome? w with
    | none => []
    | some v =>
      if m.isTurnOf t then
        let later := if (v.schedule.point? t).isNone then [] else v.nightsFrom t v.bedtime moves
        if (w.wakeTime? t).isSome ∧ w.isCancelled t = false then ⟨b, w.clock⟩ :: later else later
      else v.nightsFrom t b moves

/-- The nights of a handler that does not sleep yet. -/
def nights (w : World) (t : TaskId) (moves : List Move) : List Night :=
  w.nightsFrom t w.bedtime moves

/-- If the handler sleeps, it is for the delay from its bedtime. -/
def Sleeps (w : World) (t : TaskId) (b : Bedtime) : Prop :=
  ∀ due, w.wakeTime? t = some due → ∃ (ms : Nat) (delay : Duration), b.bed = w.clockAfter ms ∧
    b.delay? w.zone w.config.renewalJitter = some delay ∧ due = ms + delay.timerMillis

variable {w w' : World} {t : TaskId} {b : Bedtime} {m : Move} {moves : List Move}

lemma wakeTime?_eq_some_iff {due : Nat} : w.wakeTime? t = some due ↔
    w.schedule.point? t = some (.handler (.sleep due)) := by
  unfold wakeTime?
  split
  · next here => simp [here]
  · next other =>
    refine iff_of_false nofun fun here => other due here

/-- A turn of another, or anything that is no turn, ends no night. -/
lemma nightsFrom_cons_of_ne (move : m.outcome? w = some w') (other : m ≠ .turn t) :
    w.nightsFrom t b (m :: moves) = w'.nightsFrom t b moves := by
  have turn : m.isTurnOf t = false := Bool.eq_false_iff.2 fun mine => other (Move.isTurnOf_iff.1 mine)
  rw [nightsFrom]
  simp only [move, turn]
  rfl

lemma nightsFrom_cons_turn (turn : (Move.turn t).outcome? w = some w') :
    w.nightsFrom t b (.turn t :: moves) =
      (if (w.wakeTime? t).isSome ∧ w.isCancelled t = false then [⟨b, w.clock⟩] else []) ++
        (if (w'.schedule.point? t).isNone then [] else w'.nightsFrom t w'.bedtime moves) := by
  rw [nightsFrom]
  simp only [turn, Move.isTurnOf_iff.2, if_true]
  split <;> rfl

lemma bedtime_advance (t : TaskId) (task : Task) (w : World) :
    (advance t task w).bedtime = (Task.resume t task w).1.bedtime := by
  unfold bedtime clock
  rw [now_advance, advance_eq]
  rfl

end World

namespace Handler

variable {t : TaskId} {w : World} {due : Nat}

/-- The handler rises from its sleep, unless it is to stop. -/
def rises (t : TaskId) (p : HandlerPoint) (w : World) : Bool :=
  match p with
  | .sleep _ => !w.isCancelled t
  | _ => false

/-- What a turn of the handler does, and whether it begins a check of the certificate. -/
inductive Does (t : TaskId) (w : World) : HandlerPoint → Bool → Turn HandlerPoint Unit → Prop where
  | firstNight : Does t w .start false (night w)
  | begins (due : Nat) : Does t w (.sleep due) true (checking (Check.start w))
  | goesOn (point : CheckPoint) : Does t w (.check point) false (checking (Check.resume point w))
  | leaves (p : HandlerPoint) (asked : w.isCancelled t = true) : Does t w p false (w, .done ())

/-- A handler that rises begins a check, and it begins none in any other turn. -/
lemma does_resume (t : TaskId) (p : HandlerPoint) (w : World) :
    Does t w p (rises t p w) (resume t p w) := by
  cases p with
  | start => exact .firstNight
  | sleep due =>
    rw [rises, resume]
    cases asked : w.isCancelled t with
    | true => exact .leaves _ asked
    | false => exact .begins due
  | check point =>
    rw [show rises t (.check point) w = false from rfl, resume]
    cases asked : w.isCancelled t with
    | true => exact .leaves _ asked
    | false => exact .goesOn point

lemma night_of_checking {turn : Turn CheckPoint CertificateCheck}
    (asleep : (checking turn).2 = .wait (.sleep due)) : ∃ v, checking turn = night v := by
  obtain ⟨v, p | r | _⟩ := turn
  · cases asleep
  · exact ⟨v, rfl⟩
  · cases asleep

lemma night_of_resume {p : HandlerPoint} (asleep : (resume t p w).2 = .wait (.sleep due)) :
    ∃ v, resume t p w = night v := by
  obtain ⟨begins, does⟩ : ∃ begins, Does t w p begins (resume t p w) := ⟨_, does_resume t p w⟩
  generalize resume t p w = turn at asleep does
  cases does with
  | firstNight => exact ⟨w, rfl⟩
  | begins due' => exact night_of_checking asleep
  | goesOn point => exact night_of_checking asleep
  | leaves _ asked => cases asleep

lemma now_night (w : World) : (night w).1.now = w.now := by
  unfold night
  dsimp only
  split <;> rfl

lemma delay?_night (asleep : (night w).2 = .wait (.sleep due)) : ∃ delay,
    (night w).1.bedtime.delay? w.zone w.config.renewalJitter = some delay ∧
      due = w.now + delay.timerMillis := by
  unfold night at asleep ⊢
  dsimp only at asleep ⊢
  split at asleep
  · cases asleep
  · next delay set =>
    cases asleep
    exact ⟨delay, set, rfl⟩

end Handler

namespace World

variable {w w' : World} {t : TaskId} {b : Bedtime} {m : Move} {moves : List Move}

/-- **A night ends with the turn that begins a check**, and with no other turn of the handler. -/
lemma nightsFrom_cons_of_handler {p : HandlerPoint} (here : w.schedule.point? t = some (.handler p))
    (turn : (Move.turn t).outcome? w = some w') :
    ∃ begins, Handler.Does t w p begins (Handler.resume t p w) ∧
      w.nightsFrom t b (.turn t :: moves) = (if begins then [⟨b, w.clock⟩] else []) ++
        (if (w'.schedule.point? t).isNone then [] else w'.nightsFrom t w'.bedtime moves) := by
  refine ⟨_, Handler.does_resume t p w, ?_⟩
  have rises : Handler.rises t p w ↔ (w.wakeTime? t).isSome ∧ w.isCancelled t = false := by
    unfold wakeTime?
    rw [here]
    cases p <;> simp [Handler.rises]
  rw [nightsFrom_cons_turn turn]
  simp only [rises]

lemma sleeps_of_turn (turn : (Move.turn t).outcome? w = some w') : w'.Sleeps t w'.bedtime := by
  obtain ⟨task, here, -, rfl⟩ := exists_of_turn turn
  intro due asleep
  have there := wakeTime?_eq_some_iff.1 asleep
  rw [point?_advance] at there
  obtain ⟨p, rfl⟩ : ∃ p, task = .handler p := by
    have own := Task.owner_resume t there
    cases task with
    | handler p => exact ⟨p, rfl⟩
    | _ => cases own
  obtain ⟨_, came, same⟩ := Task.exists_wait_of_goOn there
  cases same
  obtain ⟨v, eq⟩ := Handler.night_of_resume came
  rw [eq] at came
  obtain ⟨delay, set, rfl⟩ := Handler.delay?_night came
  have left : (Task.resume t (.handler p) w).1 = (Handler.night v).1 := by
    rw [Task.resume, Task.goOn_fst, eq]
  have same : (Handler.night v).1.fixtures = v.fixtures :=
    (Handler.touches_night (f := .plain) v).fixtures
  have zone : (advance t (.handler p) w).zone = v.zone := by
    rw [advance_eq, left]
    exact congrArg Fixtures.zone same
  have config : (advance t (.handler p) w).config = v.config := by
    rw [advance_eq, left]
    exact congrArg Fixtures.config same
  have now : (advance t (.handler p) w).now = v.now := by
    rw [now_advance, left, Handler.now_night]
  refine ⟨v.now, delay, ?_, ?_, rfl⟩
  · rw [← now]
    rfl
  · rw [zone, config, bedtime_advance, left]
    exact set

lemma wakeTime?_of_move {due : Nat} (move : m.outcome? w = some w') (other : m ≠ .turn t)
    (asleep : w'.wakeTime? t = some due) : w.wakeTime? t = some due := by
  rw [wakeTime?_eq_some_iff] at asleep ⊢
  rcases Move.point?_before move asleep with before | mine | new | ⟨_, _, -, asked⟩ |
    ⟨_, _, -, came⟩
  · exact before
  · exact absurd mine other
  · cases new
  · cases asked
  · cases came

/-- The wall clock is set while a handler sleeps. -/
def SetsClockOf (t : TaskId) (m : Move) (w : World) : Prop :=
  (w.wakeTime? t).isSome ∧ m.setsClock

instance (t : TaskId) (m : Move) (w : World) : Decidable (SetsClockOf t m w) :=
  inferInstanceAs (Decidable (_ ∧ _))

/-- As long as the wall clock is not set, it sleeps for the same delay. -/
lemma Sleeps.of_move (move : m.outcome? w = some w') (other : m ≠ .turn t)
    (undisturbed : ¬ SetsClockOf t m w) (sleeps : w.Sleeps t b) : w'.Sleeps t b := by
  intro due asleep
  have before := wakeTime?_of_move move other asleep
  obtain ⟨ms, delay, bed, set, timer⟩ := sleeps due before
  have unset : ∀ millis, m ≠ .clock millis := by
    rintro millis rfl
    exact undisturbed ⟨Option.isSome_of_eq_some before, rfl⟩
  have same := Move.fixtures move unset
  have zone : w'.zone = w.zone := congrArg Fixtures.zone same
  have config : w'.config = w.config := congrArg Fixtures.config same
  rw [clockAfter_congr same, zone, config]
  exact ⟨ms, delay, bed, set, timer⟩

lemma Sleeps.slept (sleeps : w.Sleeps t b) (turn : (Move.turn t).outcome? w = some w')
    (asleep : (w.wakeTime? t).isSome) (calm : w.isCancelled t = false) :
    Night.Slept w.zone w.config.renewalJitter ⟨b, w.clock⟩ := by
  obtain ⟨due, wakes⟩ := Option.isSome_iff_exists.1 asleep
  obtain ⟨ms, delay, bed, set, rfl⟩ := sleeps due wakes
  obtain ⟨task, here, ready, -⟩ := exists_of_turn turn
  cases here.symm.trans (wakeTime?_eq_some_iff.1 wakes)
  have fired : ms + delay.timerMillis ≤ w.now := by
    rcases Bool.or_eq_true_iff.1 ready with arrived | cancelled
    · exact of_decide_eq_true arrived
    · cases calm.symm.trans (Bool.and_eq_true_iff.1 cancelled).2
  refine ⟨?_, w.nanos_clockAfter _, delay, set, ?_⟩
  · rw [bed]
    exact w.nanos_clockAfter _
  · show _ ≤ w.clock.nanosSince b.bed
    rw [bed, clock, nanosSince_clockAfter]
    omega

/-- Every night of a run ends when a timer has fired that was set for its delay. -/
lemma slept_of_mem_nightsFrom {n : Night}
    (undisturbed : w.Throughout (fun m v _ => ¬ SetsClockOf t m v) moves) (sleeps : w.Sleeps t b)
    (there : n ∈ w.nightsFrom t b moves) : n.Slept w.zone w.config.renewalJitter := by
  induction moves generalizing w b with
  | nil => cases there
  | cons m moves ih =>
    cases move : m.outcome? w with
    | none =>
      rw [nightsFrom] at there
      simp only [move, List.not_mem_nil] at there
    | some v =>
      obtain ⟨calm, later⟩ := undisturbed v move
      obtain ⟨zone, config⟩ := fixtures_of_move move
      rw [← zone, ← config]
      by_cases mine : m = .turn t
      · -- After its turn the handler may be in bed again, so the induction is for every bedtime.
        subst mine
        rw [nightsFrom_cons_turn move, List.mem_append] at there
        rcases there with now | later'
        · split at now
          · next rises =>
            obtain rfl := List.mem_singleton.1 now
            rw [zone, config]
            exact sleeps.slept move rises.1 rises.2
          · cases now
        · split at later'
          · cases later'
          · exact ih later (sleeps_of_turn move) later'
      · rw [nightsFrom_cons_of_ne move mine] at there
        exact ih later (sleeps.of_move move mine calm) there

lemma bed_of_head? {n : Night} (asleep : (w.wakeTime? t).isSome)
    (first : n ∈ (w.nightsFrom t b moves).head?) : n.bed = b.bed := by
  obtain ⟨due, wakes⟩ := Option.isSome_iff_exists.1 asleep
  have here := wakeTime?_eq_some_iff.1 wakes
  induction moves generalizing w with
  | nil => cases first
  | cons m moves ih =>
    cases move : m.outcome? w with
    | none =>
      rw [nightsFrom] at first
      simp only [move, List.head?_nil] at first
      cases first
    | some v =>
      by_cases mine : m = .turn t
      · subst mine
        rw [nightsFrom_cons_turn move] at first
        by_cases cancelled : w.isCancelled t = false
        · rw [if_pos ⟨asleep, cancelled⟩] at first
          cases first
          rfl
        · have finished : v.schedule.point? t = none := by
            obtain ⟨task, here', -, rfl⟩ := exists_of_turn move
            cases here'.symm.trans here
            rw [point?_advance, Task.resume, Handler.resume, if_pos (by simpa using cancelled)]
            rfl
          rw [if_neg fun rises => cancelled rises.2, if_pos (by rw [finished]; rfl)] at first
          cases first
      · rw [nightsFrom_cons_of_ne move mine] at first
        have still := Move.point?_kept move here mine rfl
        have wakes := wakeTime?_eq_some_iff.2 still
        exact ih (Option.isSome_of_eq_some wakes) first wakes still

lemma wakeTime?_of_start (begins : w.schedule.point? t = some (.handler .start)) :
    w.wakeTime? t = none := by
  rw [wakeTime?, begins]

lemma bed_of_head?_of_start {n : Night} (begins : w.schedule.point? t = some (.handler .start))
    (first : n ∈ (w.nights t (.turn t :: moves)).head?) : n.bed = w.clock := by
  have awake := wakeTime?_of_start begins
  unfold nights at first
  cases turn : (Move.turn t).outcome? w with
  | none =>
    rw [nightsFrom] at first
    simp only [turn, List.head?_nil] at first
    cases first
  | some v =>
    rw [nightsFrom_cons_turn turn, awake, if_neg (fun rises => nomatch rises.1),
      List.nil_append] at first
    obtain ⟨task, here, -, rfl⟩ := exists_of_turn turn
    cases here.symm.trans begins
    have resumed : Task.resume t (.handler .start) w = Task.goOn .handler (Handler.night w) := rfl
    have clock : (advance t (.handler .start) w).clock = w.clock := by
      have same : (advance t (.handler .start) w).fixtures = w.fixtures :=
        Move.fixtures turn nofun
      have now : (advance t (.handler .start) w).now = w.now := by
        rw [now_advance, resumed, Task.goOn_fst, Handler.now_night]
      rw [clock, clock, now, clockAfter_congr same]
    split at first
    · cases first
    · next there =>
      have asleep : ((advance t (.handler .start) w).wakeTime? t).isSome := by
        rw [Option.isNone_iff_eq_none, point?_advance, resumed] at there
        rw [wakeTime?, point?_advance, resumed]
        unfold Handler.night at there ⊢
        dsimp only at there ⊢
        split at there
        · exact absurd rfl there
        · rfl
      exact (bed_of_head? asleep first).trans clock

end World

/-! ### One check every night -/

variable {w : World} {t : TaskId} {moves : List Move} {offset : Int}

/-- **The certificate is checked once every night.** Where the local time is always ahead by the same
offset and the window of delays is shorter than a day, each check of the handler begins on the day
after that of the check before, and the first one on the day after that of its start; and it begins
as long after midnight as has been drawn, or a millisecond later at most. This takes for granted that
no sleep ends more than a millisecond after its delay, that no check lasts until the next day, and
that nobody sets the clock while the handler sleeps. -/
theorem certificate_is_checked_once_every_night
    (begins : w.schedule.point? t = some (.handler .start)) (zone : w.zone = .fixed offset)
    (small : -86400 < offset ∧ offset < 86400)
    (short : w.config.renewalJitter.max < .ofSecs 86400)
    (undisturbed : w.Throughout (fun m v _ => ¬ SetsClockOf t m v) (.turn t :: moves))
    (onTime : ∀ n ∈ w.nights t (.turn t :: moves), n.OnTime w.zone w.config.renewalJitter)
    (sameDate : (w.nights t (.turn t :: moves)).IsChain fun n next =>
      next.bed.localDay w.zone = n.rise.localDay w.zone)
    (last : w.clock.localDay w.zone + (w.nights t (.turn t :: moves)).length ≤ Date.maxDay)
    (i : Nat) (inside : i < (w.nights t (.turn t :: moves)).length) :
    (w.nights t (.turn t :: moves))[i].ChecksOn w.zone w.config.renewalJitter
      (w.clock.localDay w.zone + i + 1) := by
  have awake := wakeTime?_of_start begins
  have sleeps : w.Sleeps t w.bedtime := by
    intro due asleep
    cases awake.symm.trans asleep
  have slept : ∀ n ∈ w.nights t (.turn t :: moves), n.Slept w.zone w.config.renewalJitter :=
    fun _ there => slept_of_mem_nightsFrom undisturbed sleeps there
  have first : ∀ n ∈ (w.nights t (.turn t :: moves)).head?,
      n.bed.localDay w.zone = w.clock.localDay w.zone := fun n there => by
    rw [bed_of_head?_of_start begins there]
  rw [zone] at slept onTime sameDate first last ⊢
  exact Night.checksOn_of_isChain slept onTime sameDate first small short last i inside

/-- An hour east of Greenwich, half a millisecond into 1970. -/
def Setting.earlyStart : Setting where
  zone := .fixed 3600
  startNanos := ⟨500000, by decide⟩
  draws := id

/-- Two nights, after which the handler finds the backend still loading. -/
def twoNights : List Move := [.time 82801000, .turn 1, .time 169202000, .turn 1]

/-- Midnights come 82800 and 169200 seconds after the start. -/
theorem early_start_checks_twice : ∃ w : World,
    Setting.earlyStart.world.after? [.ask .load, .turn 0] = some w ∧
      w.schedule.point? 1 = some (.handler .start) ∧ w.zone = .fixed 3600 ∧
      w.config.renewalJitter.max < .ofSecs 86400 ∧
      w.Throughout (fun m v _ => ¬ SetsClockOf 1 m v) (.turn 1 :: twoNights) ∧
      (∀ n ∈ w.nights 1 (.turn 1 :: twoNights), n.OnTime w.zone w.config.renewalJitter) ∧
      ((w.nights 1 (.turn 1 :: twoNights)).IsChain fun n next =>
        next.bed.localDay w.zone = n.rise.localDay w.zone) ∧
      (w.nights 1 (.turn 1 :: twoNights)).map Night.rise =
        [⟨82801, 500000⟩, ⟨169202, 500000⟩] ∧
      ∀ (i : Nat) (inside : i < (w.nights 1 (.turn 1 :: twoNights)).length),
        (w.nights 1 (.turn 1 :: twoNights))[i].ChecksOn w.zone w.config.renewalJitter (i + 1) := by
  have seen : (Setting.earlyStart.world.after? [.ask .load, .turn 0]).map (fun w =>
      (w.schedule.point? 1, w.zone, w.config.renewalJitter, w.clock)) =
      some (some (.handler .start), .fixed 3600, ⟨.ofSecs 1, .ofSecs 3600⟩, ⟨0, 500000⟩) := rfl
  have spent : (Setting.earlyStart.world.after? [.ask .load, .turn 0]).all (fun w =>
      w.Throughout (fun m v _ => ¬ SetsClockOf 1 m v) (.turn 1 :: twoNights) &&
      w.nights 1 (.turn 1 :: twoNights) =
        [⟨⟨⟨0, 500000⟩, 0⟩, ⟨82801, 500000⟩⟩, ⟨⟨⟨82801, 500000⟩, 1⟩, ⟨169202, 500000⟩⟩]) := by
    decide +kernel
  obtain ⟨w, run, seen⟩ := Option.map_eq_some_iff.1 seen
  simp only [Prod.mk.injEq] at seen
  obtain ⟨begins, zone, window, clock⟩ := seen
  rw [run, Option.all_some, Bool.and_eq_true_iff, decide_eq_true_eq, decide_eq_true_eq] at spent
  obtain ⟨undisturbed, nights⟩ := spent
  have short : w.config.renewalJitter.max < .ofSecs 86400 := by
    rw [window]
    decide
  have onTime : ∀ n ∈ w.nights 1 (.turn 1 :: twoNights),
      n.OnTime w.zone w.config.renewalJitter := by
    rw [nights, zone, window]
    decide
  have sameDate : (w.nights 1 (.turn 1 :: twoNights)).IsChain fun n next =>
      next.bed.localDay w.zone = n.rise.localDay w.zone := by
    rw [nights, zone]
    decide
  have today : w.clock.localDay w.zone = 0 := by
    rw [clock, zone]
    decide
  refine ⟨w, run, begins, zone, short, undisturbed, onTime, sameDate, by rw [nights]; rfl,
    fun i inside => ?_⟩
  have checked := certificate_is_checked_once_every_night begins zone ⟨by decide, by decide⟩ short
    undisturbed onTime sameDate (by rw [today, nights]; decide) i inside
  rwa [today, Int.zero_add] at checked

end Coordinator

end TunnelKeeper
