import TunnelKeeper.Proofs.Nights
import TunnelKeeper.Proofs.Settings
import TunnelKeeper.Remote.Renewal

/-!
How far the settings of the handler reach. Its delay leaves the range of durations if the window for
it ends too late, and the tests of an expiry leave the calendar if their days do. The checks of the
settings exclude neither. Short of that, the tests compare as if numbers had no bounds, and
what is worth a warning is due.
-/

namespace TunnelKeeper

/-! ### Days in an unbounded calendar -/

namespace Instant

variable {a b t now expire : Instant} {days : Nat}

/-- So many days later, be it a day of the calendar or not. Only a clock that stays where it is
stays in a leap second. -/
def daysLater (now : Instant) (days : Nat) : Instant :=
  ⟨now.secs + days * 86400, if days = 0 then now.nanos else now.nanos % 1000000000⟩

lemma le_trans (first : a ≤ b) (second : b ≤ t) : a ≤ t := by
  rw [le_iff] at first second ⊢
  omega

lemma daysLater_mono {more : Nat} (le : days ≤ more) : now.daysLater days ≤ now.daysLater more := by
  rw [le_iff]
  unfold daysLater
  by_cases same : days = more
  · subst same
    exact .inr ⟨rfl, Nat.le_refl _⟩
  · exact .inl (show now.secs + days * 86400 < now.secs + more * 86400 by omega)

/-- Where no leap second is, an expiry is compared with a later day by the nanoseconds that are left
until it. -/
lemma le_daysLater_iff (plainExpire : expire.nanos < 1000000000) (plain : now.nanos < 1000000000) :
    expire ≤ now.daysLater days ↔ expire.nanosSince now ≤ days * 86400 * 1000000000 := by
  have whole : (now.daysLater days).nanos = now.nanos := by
    unfold daysLater
    rw [Nat.mod_eq_of_lt plain]
    exact ite_self _
  rw [le_iff, whole, nanosSince_eq plainExpire plain]
  show expire.secs < now.secs + days * 86400 ∨ expire.secs = now.secs + days * 86400 ∧ _ ↔ _
  omega

lemma addSecs?_days (representable : now.Representable) (days : Nat) :
    now.addSecs? (days * 86400) =
      if now.secs + days * 86400 ≤ maxSecs then some (now.daysLater days) else none := by
  obtain ⟨least, -, single⟩ := representable
  have moved : now.addSecs? (days * 86400) = checked (now.daysLater days) := by
    unfold addSecs? daysLater
    by_cases zero : days = 0
    · subst zero
      rw [if_pos (.inr rfl), if_pos rfl]
    · rw [if_neg zero]
      -- whoever leaves a leap second gives up the second that it adds
      by_cases plain : now.nanos < 1000000000
      · rw [if_pos (.inl plain), Nat.mod_eq_of_lt plain]
      · rw [if_neg (by omega), if_pos (by omega),
          show now.nanos % 1000000000 = now.nanos - 1000000000 by omega]
  have second : (now.daysLater days).nanos < 2000000000 := by
    unfold daysLater
    dsimp only
    split
    · exact single
    · omega
  rw [moved]
  refine if_congr ⟨fun inside => inside.2.1, fun last => ⟨?_, last, second⟩⟩ rfl rfl
  show minSecs ≤ now.secs + days * 86400
  omega

end Instant

/-! ### The tests of an expiry -/

/-- What a test tells that compares an expiry with a number of days from now. -/
structure ExpiryTest (expire : Option Instant) (now : Instant) (days : Nat)
    (test : Option Bool) : Prop where
  /-- It fails only if those days end after the calendar. -/
  answers : test.isSome ↔ expire = none ∨ now.secs + days * 86400 ≤ Instant.maxSecs
  /-- An expiry that nobody knows is near. -/
  unknown : expire = none → test = some true
  /-- One that is known is near if it comes before the end of those days. -/
  compares : ∀ e near, expire = some e → test = some near →
    (near = true ↔ e ≤ now.daysLater days)
  /-- Where no leap second is, this is a comparison of the time that is left. -/
  counts : ∀ e near, expire = some e → test = some near → e.nanos < 1000000000 →
    now.nanos < 1000000000 →
    (near = true ↔ e.nanosSince now ≤ days * 86400 * 1000000000)

namespace ExpiryTest

variable {expire : Option Instant} {now : Instant} {days less : Nat} {test early : Option Bool}

lemma renewalDue? (representable : now.Representable) (expire : Option Instant) (days : Nat) :
    ExpiryTest expire now days (renewalDue? expire now (days * 86400)) := by
  cases expire with
  | none => exact ⟨iff_of_true rfl (.inl rfl), fun _ => rfl, nofun, nofun⟩
  | some e =>
    rw [TunnelKeeper.renewalDue?, Instant.addSecs?_days representable]
    have compares (near : Bool) (known : Option.map (fun limit => decide (e ≤ limit))
        (if now.secs + days * 86400 ≤ Instant.maxSecs then some (now.daysLater days) else none) =
        some near) : near = true ↔ e ≤ now.daysLater days := by
      split at known
      · cases known
        exact decide_eq_true_iff
      · cases known
    refine ⟨?_, nofun, fun _ near same known => ?_, fun _ near same known plainE plain => ?_⟩
    · rw [Option.isSome_map]
      split
      · next inside => exact iff_of_true rfl (.inr inside)
      · next outside => exact iff_of_false nofun fun near => near.elim nofun outside
    · cases same
      exact compares near known
    · cases same
      rw [compares near known, Instant.le_daysLater_iff plainE plain]

/-- With fewer days a test fails no sooner, and what is near for it is near for more days. -/
lemma mono {near : Bool} (narrow : ExpiryTest expire now less early)
    (wide : ExpiryTest expire now days test) (le : less ≤ days) (known : test = some near) :
    ∃ soon, early = some soon ∧ (soon = true → near = true) := by
  have there : early.isSome := by
    rcases wide.answers.1 (by rw [known]; rfl) with none | inside
    · exact narrow.answers.2 (.inl none)
    · exact narrow.answers.2 (.inr (by omega))
  obtain ⟨soon, same⟩ := Option.isSome_iff_exists.1 there
  refine ⟨soon, same, fun yes => ?_⟩
  cases unknown : expire with
  | none => exact Option.some.inj (known.symm.trans (wide.unknown unknown))
  | some e =>
    rw [wide.compares e near unknown known]
    exact Instant.le_trans ((narrow.compares e soon unknown same).1 yes) (Instant.daysLater_mono le)

end ExpiryTest

/-! ### The delay of a night -/

namespace Duration

lemma ofNanos?_isSome {n : Nat} : (ofNanos? n).isSome ↔ n < UInt64.size * 1000000000 := by
  rw [ofNanos?, Option.isSome_ite, show UInt64.size = 18446744073709551616 from rfl]
  omega

end Duration

namespace Instant

variable {now : Instant} {offset : Int}

/-- Through the year 9999 every local date has one after it. -/
lemma hasTomorrow_fixed (era : 0 ≤ now.secs ∧ now.secs < 253402300800)
    (small : -86400 < offset ∧ offset < 86400) : now.HasTomorrow (.fixed offset) := by
  have day : now.localDay (.fixed offset) = (now.secs + offset) / 86400 := rfl
  refine ⟨?_, ?_⟩
  · rw [day, Date.minDay]
    omega
  · rw [day, Date.maxDay]
    omega

/-- A leap second makes no day longer: what is left of it is at most a day. -/
lemma nanosSince_midnight_le {midnight : Instant} (whole : midnight.nanos = 0)
    (near : midnight.secs ≤ now.secs + 86400) :
    midnight.nanosSince now ≤ 86400 * 1000000000 := by
  have noLeap : ¬ 1000000000 ≤ midnight.nanos := by omega
  unfold nanosSince leapBetween
  rw [whole]
  split
  · split <;> omega
  · split
    · omega
    · omega

/-- Where the offset never changes, a day at most is left until the next midnight, and something is
unless a leap second goes by. -/
lemma untilNextMidnight?_le (era : 0 ≤ now.secs ∧ now.secs < 253402300800)
    (small : -86400 < offset ∧ offset < 86400) :
    ∃ left, now.untilNextMidnight? (.fixed offset) = some left ∧ left ≤ oneDay ∧
      (now.nanos < 1000000000 → .zero < left) := by
  have dated := hasTomorrow_fixed era small
  have day : now.localDay (.fixed offset) = (now.secs + offset) / 86400 := rfl
  refine ⟨_, dated.untilNextMidnight?_eq, ?_, fun plain => ?_⟩
  · cases awaited : now.nextMidnight? (.fixed offset) with
    | none => exact Nat.le_refl _
    | some midnight =>
      have comes := ((nextMidnight?_eq_some_iff dated.tomorrow).1 awaited).1
      have shown : midnight.secs + offset = (now.localDay (.fixed offset) + 1) * 86400 := comes.secs
      have near : midnight.secs ≤ now.secs + 86400 := by omega
      have most := nanosSince_midnight_le comes.nanos near
      show (midnight.timeUntil now).toNanos ≤ 86400 * 1000000000
      have most : (midnight.nanosSince now).toNat ≤ 86400 * 1000000000 := by omega
      cases made : Duration.ofNanos? (midnight.nanosSince now).toNat with
      | none =>
        rw [timeUntil, made]
        exact Nat.zero_le _
      | some left =>
        rw [timeUntil, made]
        exact (Duration.toNanos_of_ofNanos? made).le.trans most
  · obtain ⟨left, same, long⟩ := untilNextMidnight?_fixed small plain dated
    cases same.symm.trans dated.untilNextMidnight?_eq
    show 0 < _
    omega

end Instant

lemma Bedtime.delay?_eq {zone : Zone} {window : Jitter} {b : Bedtime} {left : Duration}
    (awaited : b.bed.untilNextMidnight? zone = some left) :
    b.delay? zone window = left.add? (window.sample b.draw) := by
  unfold delay?
  rw [awaited]
  exact Option.bind_some _ _

lemma Coordinator.Handler.night_eq_panic {w : World} : (night w).2 = .panic ↔
    (Bedtime.mk w.clock (w.draws w.drawn)).delay? w.zone w.config.renewalJitter = none := by
  unfold night
  dsimp only
  split
  · next undefined => exact iff_of_true rfl undefined
  · next delay set =>
    exact iff_of_false nofun fun undefined => nomatch set.symm.trans undefined

/-- **The handler fails where its settings reach too far.** Where the offset never changes, the time
until the next midnight is at most a day, and the delay of a night is that time and what is drawn;
it is undefined exactly if the sum does not fit a duration. The tests whether a renewal is due and
whether its failure is worth a warning compare the expiry with their days from now, and are
undefined exactly if an expiry is known and those days end after the calendar. In settings that are
usable, where it can be told whether a renewal is due, it can be told whether its failure is worth a
warning, and then it is due. -/
theorem handler_fails_out_of_range {c : Config} (valid : c.Valid) {b : Bedtime}
    (era : 0 ≤ b.bed.secs ∧ b.bed.secs < 253402300800) {offset : Int}
    (small : -86400 < offset ∧ offset < 86400) {now : Instant} (representable : now.Representable)
    (expire : Option Instant) :
    (∃ left, b.bed.untilNextMidnight? (.fixed offset) = some left ∧ left ≤ Instant.oneDay ∧
      (b.bed.nanos < 1000000000 → .zero < left) ∧
      ((b.delay? (.fixed offset) c.renewalJitter).isSome ↔
        left.toNanos + (c.renewalJitter.sample b.draw).toNanos < UInt64.size * 1000000000) ∧
      ∀ delay, b.delay? (.fixed offset) c.renewalJitter = some delay →
        delay.toNanos = left.toNanos + (c.renewalJitter.sample b.draw).toNanos) ∧
    ExpiryTest expire now c.renewBeforeDays.toNat (renewalDue? expire now c.renewThreshold) ∧
    ExpiryTest expire now c.warnBeforeDays.toNat (renewalUrgent? expire now c.warnThreshold) ∧
    ∀ due, renewalDue? expire now c.renewThreshold = some due →
      ∃ urgent, renewalUrgent? expire now c.warnThreshold = some urgent ∧
        (urgent = true → due = true) := by
  have renew := ExpiryTest.renewalDue? representable expire c.renewBeforeDays.toNat
  have warn := ExpiryTest.renewalDue? representable expire c.warnBeforeDays.toNat
  have le : c.warnBeforeDays.toNat ≤ c.renewBeforeDays.toNat :=
    Nat.not_lt.1 (Config.valid_iff.1 valid).2.2.1
  refine ⟨?_, renew, warn, fun due told => warn.mono renew le told⟩
  obtain ⟨left, awaited, most, positive⟩ := Instant.untilNextMidnight?_le era small
  refine ⟨left, awaited, most, positive, ?_⟩
  rw [Bedtime.delay?_eq awaited]
  exact ⟨Duration.ofNanos?_isSome, fun delay made => Duration.toNanos_of_ofNanos? made⟩

/-- With the defaults, two hours before a year begins in Greenwich and one hour before it begins a
zone further east, the handler can sleep. A certificate that expires twenty days later is due, but
nobody need be warned. -/
theorem default_handler_sleeps :
    let c : Config := {}
    let now : Instant := ⟨1704060000, 0⟩
    let expire : Instant := ⟨1704060000 + 20 * 86400, 0⟩
    c.Valid ∧ (0 ≤ now.secs ∧ now.secs < 253402300800) ∧
      ((-86400 : Int) < 3600 ∧ (3600 : Int) < 86400) ∧ now.Representable ∧
      (∃ delay, (Bedtime.mk now 20).delay? (.fixed 3600) c.renewalJitter = some delay ∧
        delay.toNanos = (3600 + 21) * 1000000000) ∧
      renewalDue? (some expire) now c.renewThreshold = some true ∧
      renewalUrgent? (some expire) now c.warnThreshold = some false := by
  intro c now expire
  have valid : c.Valid := by decide +kernel
  have era : 0 ≤ now.secs ∧ now.secs < 253402300800 := by decide
  have small : (-86400 : Int) < 3600 ∧ (3600 : Int) < 86400 := by decide
  have representable : now.Representable := by decide
  -- the sum and the comparisons are those of the theorem, only their numbers are computed
  obtain ⟨⟨left, awaited, -, -, sleeps, long⟩, due, urgent, -⟩ :=
    handler_fails_out_of_range (b := ⟨now, 20⟩) valid era small representable (some expire)
  have hour : now.untilNextMidnight? (.fixed 3600) = some (.ofSecs 3600) := by decide
  cases hour.symm.trans awaited
  have drawn : (c.renewalJitter.sample 20).toNanos = 21 * 1000000000 := by decide +kernel
  have sum : (Duration.ofSecs 3600).toNanos = 3600 * 1000000000 := by decide +kernel
  rw [drawn, sum] at sleeps long
  obtain ⟨delay, set⟩ := Option.isSome_iff_exists.1 (sleeps.2 (by decide))
  obtain ⟨near, told⟩ := Option.isSome_iff_exists.1 (due.answers.2 (.inr (by decide)))
  obtain ⟨soon, warned⟩ := Option.isSome_iff_exists.1 (urgent.answers.2 (.inr (by decide)))
  have near' := due.counts expire near rfl told (by decide) (by decide)
  have soon' := urgent.counts expire soon rfl warned (by decide) (by decide)
  refine ⟨valid, era, small, representable, ⟨delay, set, long delay set⟩, ?_, ?_⟩
  · rw [told, near'.2 (by decide)]
  · rw [warned, Bool.eq_false_iff.2 fun yes => absurd (soon'.1 yes) (by decide)]

/-- Settings whose days and delays are the longest there are. -/
def Config.boundless : Config where
  renewBeforeDays := 4294967295
  renewalJitter := ⟨.ofSecs 18446744073709551615, .ofSecs 18446744073709551615⟩

/-- They are usable, but the handler fails before its first night, and whether a certificate is due
cannot be told. -/
theorem boundless_handler_fails :
    let w := ({ config := Config.boundless } : Coordinator.Setting).world
    w.config.Valid ∧
      (Bedtime.mk ⟨0, 0⟩ 0).delay? .utc w.config.renewalJitter = none ∧
      (Coordinator.Handler.night w).2 = .panic ∧
      renewalDue? (some ⟨0, 0⟩) ⟨0, 0⟩ w.config.renewThreshold = none := by
  intro w
  have fails : (Coordinator.Handler.night w).2 = .panic :=
    Coordinator.Handler.night_eq_panic.2 (by decide +kernel)
  exact ⟨by decide +kernel, by decide +kernel, fails, by decide +kernel⟩

end TunnelKeeper
