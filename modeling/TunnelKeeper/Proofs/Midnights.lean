import TunnelKeeper.Time.Zone
import Mathlib.Tactic.Lemma

/-!
Local days and the midnights at which they begin. In a zone that changes its offset once, a midnight
may be skipped or come twice. The time until the next midnight is that until its first coming, so it
is right unless the clock has been put back over a midnight that had come already: then nothing is
left, although that midnight comes again.
-/

namespace TunnelKeeper

lemma Duration.exists_ofNanos? {n : Nat} (fits : n / 1000000000 < UInt64.size) :
    ∃ d, ofNanos? n = some d ∧ d.toNanos = n := by
  refine ⟨_, if_pos fits, ?_⟩
  have whole : (n / 1000000000).toUInt64.toNat = n / 1000000000 := UInt64.toNat_ofNat_of_lt' fits
  simp only [toNanos, whole]
  omega

/-! ### What the local clock shows -/

namespace Zone

variable {zone : Zone} {secs later shown : Int}

/-- What the local clock shows at an instant, in seconds. -/
def localSecs (zone : Zone) (secs : Int) : Int := secs + zone.offsetAt secs

lemma localSecs_change {moment before after : Int} :
    (change moment before after).localSecs secs = shown ↔
      secs < moment ∧ secs = shown - before ∨ moment ≤ secs ∧ secs = shown - after := by
  simp only [localSecs, offsetAt]
  split <;> omega

/-- A local time is taken for the first instant at which the clock shows it. -/
lemma earliest?_eq_some_iff : zone.earliest? shown = some secs ↔
    zone.localSecs secs = shown ∧ ∀ other, zone.localSecs other = shown → secs ≤ other := by
  cases zone with
  | fixed offset =>
    simp only [earliest?, localSecs, offsetAt, Option.some.injEq]
    constructor
    · intro same
      exact ⟨by omega, fun other again => by omega⟩
    · intro ⟨same, _⟩
      omega
  | change moment before after =>
    rw [earliest?]
    simp only [localSecs_change]
    split
    · next early =>
      rw [Option.some.injEq]
      constructor
      · intro same
        exact ⟨by omega, fun other again => by omega⟩
      · intro ⟨same, least⟩
        have first := least (shown - before) (.inl ⟨early, rfl⟩)
        omega
    · split
      · rw [Option.some.injEq]
        constructor
        · intro same
          exact ⟨by omega, fun other again => by omega⟩
        · intro ⟨same, _⟩
          omega
      · refine iff_of_false nofun fun ⟨same, _⟩ => ?_
        omega

lemma exists_earliest (shows : zone.localSecs secs = shown) :
    ∃ first ≤ secs, zone.earliest? shown = some first := by
  cases found : zone.earliest? shown with
  | some first => exact ⟨first, (earliest?_eq_some_iff.1 found).2 secs shows, rfl⟩
  | none =>
    exfalso
    cases zone with
    | fixed offset => cases found
    | change moment before after =>
      have shows := localSecs_change.1 shows
      rw [earliest?] at found
      split at found
      · cases found
      · split at found
        · cases found
        · omega

/-- A clock that shows less than it has shown before has been put back in between. -/
lemma put_back (order : secs ≤ later) (back : zone.localSecs later < zone.localSecs secs) :
    ∃ moment before after, zone = .change moment before after ∧ after < before ∧
      secs < moment ∧ moment ≤ later := by
  cases zone with
  | fixed offset =>
    simp only [localSecs, offsetAt] at back
    omega
  | change moment before after =>
    refine ⟨moment, before, after, rfl, ?_⟩
    simp only [localSecs, offsetAt] at back
    split at back <;> split at back <;> omega

end Zone

namespace Instant

variable {zone : Zone} {now t : Instant} {day : Int}

/-! ### Days and midnights -/

/-- The number of the local day. -/
def localDay (zone : Zone) (t : Instant) : Int := zone.localSecs t.secs / 86400

/-- A local day begins at this instant. -/
structure IsMidnight (zone : Zone) (day : Int) (t : Instant) : Prop where
  representable : t.Representable
  secs : zone.localSecs t.secs = day * 86400
  nanos : t.nanos = 0

lemma lt_iff {a b : Instant} : a < b ↔ a.secs < b.secs ∨ a.secs = b.secs ∧ a.nanos < b.nanos :=
  Iff.rfl

lemma le_iff {a b : Instant} : a ≤ b ↔ a.secs < b.secs ∨ a.secs = b.secs ∧ a.nanos ≤ b.nanos :=
  Iff.rfl

lemma IsMidnight.lt_iff (midnight : t.IsMidnight zone day) : now < t ↔ now.secs < t.secs := by
  rw [Instant.lt_iff, midnight.nanos]
  omega

/-- The midnight after now is the first coming of the midnight of the next day. -/
lemma nextMidnight?_eq_some_iff (tomorrow : now.localDay zone < Date.maxDay) :
    now.nextMidnight? zone = some t ↔ t.IsMidnight zone (now.localDay zone + 1) ∧
      ∀ other, zone.localSecs other = (now.localDay zone + 1) * 86400 → t.secs ≤ other := by
  have eq : now.nextMidnight? zone =
      (zone.earliest? ((now.localDay zone + 1) * 86400)).bind ofUnixSecs? := by
    unfold localDay Zone.localSecs at tomorrow ⊢
    simp only [nextMidnight?]
    exact if_pos (by omega)
  rw [eq, Option.bind_eq_some_iff]
  constructor
  · intro ⟨first, found, there⟩
    obtain ⟨representable, same⟩ := Option.ite_none_right_eq_some.1 there
    obtain rfl := Option.some.inj same
    obtain ⟨shows, first⟩ := Zone.earliest?_eq_some_iff.1 found
    exact ⟨⟨representable, shows, rfl⟩, first⟩
  · intro ⟨⟨representable, shows, whole⟩, first⟩
    refine ⟨t.secs, Zone.earliest?_eq_some_iff.2 ⟨shows, first⟩, ?_⟩
    have same : (⟨t.secs, 0⟩ : Instant) = t := by
      rw [← whole]
    rw [ofUnixSecs?, same]
    exact if_pos representable

/-! ### The time until midnight -/

/-- Between readings of a clock that are no leap seconds, time is the difference of the readings. -/
lemma nanosSince_eq {a b : Instant} (plainA : a.nanos < 1000000000) (plainB : b.nanos < 1000000000) :
    a.nanosSince b = (a.secs - b.secs) * 1000000000 + (a.nanos - b.nanos) := by
  have noLeap : leapBetween a b = 0 := by
    unfold leapBetween
    split
    · exact if_neg (Nat.not_le.2 plainB)
    · split
      · exact if_neg (Nat.not_le.2 plainA)
      · rfl
  rw [nanosSince, noLeap]
  omega

lemma IsMidnight.nanosSince (midnight : t.IsMidnight zone day) (plain : now.nanos < 1000000000) :
    t.nanosSince now = (t.secs - now.secs) * 1000000000 - now.nanos := by
  have whole := midnight.nanos
  rw [nanosSince_eq (by omega) plain]
  omega

lemma timeUntil_of_le (plain : now.nanos < 1000000000) (midnight : t.IsMidnight zone day)
    (past : t ≤ now) : t.timeUntil now = .zero := by
  have before : t.nanosSince now ≤ 0 := by
    rw [midnight.nanosSince plain]
    rw [le_iff] at past
    omega
  rw [timeUntil, Int.toNat_of_nonpos before]
  rfl

lemma toNanos_timeUntil (plain : now.nanos < 1000000000) (midnight : t.IsMidnight zone day)
    (later : now < t) (near : t.secs - now.secs < UInt64.size) :
    ((t.timeUntil now).toNanos : Int) = t.nanosSince now := by
  have ahead : now.secs < t.secs := midnight.lt_iff.1 later
  have eq := midnight.nanosSince plain
  have fits : (t.nanosSince now).toNat / 1000000000 < UInt64.size := by
    omega
  obtain ⟨d, made, long⟩ := Duration.exists_ofNanos? fits
  rw [timeUntil, made, Option.getD_some, long]
  omega

/-- Instants of the calendar are no further apart than a duration can say. -/
lemma near_of_representable (first : now.Representable) (last : t.Representable) :
    t.secs - now.secs < UInt64.size := by
  obtain ⟨least, -⟩ := first
  obtain ⟨-, most, -⟩ := last
  unfold minSecs Date.minDay at least
  unfold maxSecs Date.maxDay at most
  rw [show UInt64.size = 18446744073709551616 from rfl]
  omega

/-- The local date is one of the calendar, and there is a date after it. -/
structure HasTomorrow (zone : Zone) (now : Instant) : Prop where
  today : Date.minDay ≤ now.localDay zone
  tomorrow : now.localDay zone < Date.maxDay

/-- The next midnight is awaited, or a whole day if there is none. -/
lemma HasTomorrow.untilNextMidnight?_eq (dated : now.HasTomorrow zone) :
    now.untilNextMidnight? zone = some (match now.nextMidnight? zone with
      | some midnight => midnight.timeUntil now
      | none => oneDay) := by
  obtain ⟨today, tomorrow⟩ := dated
  have inside : minSecs ≤ now.secs + zone.offsetAt now.secs ∧
      now.secs + zone.offsetAt now.secs ≤ maxSecs := by
    unfold localDay Zone.localSecs at today tomorrow
    unfold minSecs maxSecs
    omega
  simp only [untilNextMidnight?]
  rw [if_pos inside]
  split <;> simp_all

lemma localSecs_lt (zone : Zone) (now : Instant) :
    zone.localSecs now.secs < (now.localDay zone + 1) * 86400 := by
  unfold localDay
  omega

/-- A coming of the next midnight that has passed was the first, and the clock has been put back
since. -/
lemma IsMidnight.first_of_past (midnight : t.IsMidnight zone (now.localDay zone + 1))
    (past : t ≤ now) :
    (∀ other, zone.localSecs other = (now.localDay zone + 1) * 86400 → t.secs ≤ other) ∧
      ∃ moment before after, zone = .change moment before after ∧ after < before ∧
        t.secs < moment ∧ moment ≤ now.secs := by
  have order : t.secs ≤ now.secs := by
    rw [le_iff] at past
    omega
  have back : zone.localSecs now.secs < zone.localSecs t.secs := by
    rw [midnight.secs]
    exact localSecs_lt zone now
  obtain ⟨moment, before, after, rfl, less, early, late⟩ := Zone.put_back order back
  have shown := Zone.localSecs_change.1 midnight.secs
  refine ⟨fun other same => ?_, moment, before, after, rfl, less, early, late⟩
  have again := Zone.localSecs_change.1 same
  omega

/-- As long as the next midnight has not come, the one that is awaited is the first of those that
are to come, and if none is awaited, none comes. -/
lemma nextMidnight?_cases (representable : now.Representable) (dated : now.HasTomorrow zone)
    (ahead : ∀ secs ≤ now.secs, zone.localSecs secs ≠ (now.localDay zone + 1) * 86400) :
    (∃ t, now.nextMidnight? zone = some t ∧ now < t ∧ t.IsMidnight zone (now.localDay zone + 1) ∧
      ∀ u, u.IsMidnight zone (now.localDay zone + 1) → t ≤ u) ∨
    now.nextMidnight? zone = none ∧ ∀ t : Instant, ¬ t.IsMidnight zone (now.localDay zone + 1) := by
  by_cases comes : ∃ t, IsMidnight zone (now.localDay zone + 1) t
  · left
    obtain ⟨t, midnight⟩ := comes
    obtain ⟨first, early, found⟩ := Zone.exists_earliest midnight.secs
    obtain ⟨shows, least⟩ := Zone.earliest?_eq_some_iff.1 found
    have later : now.secs < first := Int.not_le.1 fun passed => ahead first passed shows
    have there : IsMidnight zone (now.localDay zone + 1) ⟨first, 0⟩ := by
      refine ⟨⟨?_, ?_, show 0 < 2000000000 by decide⟩, shows, rfl⟩
      · exact Int.le_trans representable.1 (Int.le_of_lt later)
      · exact Int.le_trans early midnight.representable.2.1
    refine ⟨⟨first, 0⟩, (nextMidnight?_eq_some_iff dated.tomorrow).2 ⟨there, least⟩,
      .inl later, there, fun u again => ?_⟩
    have order : first ≤ u.secs := least u.secs again.secs
    rw [le_iff, again.nanos]
    show first < u.secs ∨ first = u.secs ∧ 0 ≤ 0
    omega
  · right
    refine ⟨Option.eq_none_iff_forall_ne_some.2 fun t found => comes ⟨t, ?_⟩, not_exists.1 comes⟩
    exact ((nextMidnight?_eq_some_iff dated.tomorrow).1 found).1

/-- **The next midnight is awaited.** As long as the midnight of the next day has not come, some time
is left, and if it does come, the time that is left ends at its first coming. If it has come already,
no time is left: this is so only when the clock has been put back over it since. -/
theorem midnight_is_awaited (representable : now.Representable) (plain : now.nanos < 1000000000)
    (dated : now.HasTomorrow zone) : ∃ left, now.untilNextMidnight? zone = some left ∧
      ((∀ secs ≤ now.secs, zone.localSecs secs ≠ (now.localDay zone + 1) * 86400) →
        .zero < left ∧ ((∃ t, now < t ∧ t.IsMidnight zone (now.localDay zone + 1)) →
          ∃ t, now < t ∧ t.IsMidnight zone (now.localDay zone + 1) ∧
            (∀ u, now < u → u.IsMidnight zone (now.localDay zone + 1) → t ≤ u) ∧
            (left.toNanos : Int) = t.nanosSince now)) ∧
      ∀ past ≤ now, past.IsMidnight zone (now.localDay zone + 1) → left = .zero ∧
        ∃ moment before after, zone = .change moment before after ∧ after < before ∧
          past.secs < moment ∧ moment ≤ now.secs := by
  refine ⟨_, dated.untilNextMidnight?_eq, fun ahead => ?_, fun past passed midnight => ?_⟩
  · rcases nextMidnight?_cases representable dated ahead with ⟨t, found, later, midnight, least⟩ |
      ⟨none, never⟩
    · rw [found]
      have left := toNanos_timeUntil plain midnight later
        (near_of_representable representable midnight.representable)
      have positive : 0 < t.nanosSince now := by
        have ahead := midnight.lt_iff.1 later
        rw [midnight.nanosSince plain]
        omega
      refine ⟨?_, fun _ => ⟨t, later, midnight, fun u _ again => least u again, left⟩⟩
      have : 0 < (t.timeUntil now).toNanos := by omega
      exact this
    · simp only [none]
      exact ⟨by decide, fun ⟨t, _, comes⟩ => absurd comes (never t)⟩
  · obtain ⟨first, back⟩ := midnight.first_of_past passed
    rw [(nextMidnight?_eq_some_iff dated.tomorrow).2 ⟨midnight, first⟩]
    exact ⟨timeUntil_of_le plain midnight passed, back⟩

/-- In the night to 7 November 2010 the clocks of Newfoundland were put back by an hour, at one
minute past midnight. Half an hour before that midnight came first, half an hour is left. -/
theorem midnight_of_newfoundland_is_awaited :
    let zone : Zone := .change 1289097060 (-9000) (-12600)
    let now : Instant := ⟨1289095200, 0⟩
    now.Representable ∧ now.nanos < 1000000000 ∧ now.HasTomorrow zone ∧
      (∀ secs ≤ now.secs, zone.localSecs secs ≠ (now.localDay zone + 1) * 86400) ∧
      now.untilNextMidnight? zone = some (.ofSecs 1800) ∧
      ∃ t, now < t ∧ t.IsMidnight zone (now.localDay zone + 1) ∧
        (∀ u, now < u → u.IsMidnight zone (now.localDay zone + 1) → t ≤ u) ∧
        t.nanosSince now = 1800000000000 := by
  intro zone now
  have dated : now.HasTomorrow zone := ⟨by decide, by decide⟩
  have ahead : ∀ secs ≤ now.secs, zone.localSecs secs ≠ (now.localDay zone + 1) * 86400 := by
    intro secs passed same
    have passed : secs ≤ 1289095200 := passed
    rw [show (now.localDay zone + 1) * 86400 = 1289088000 by decide, Zone.localSecs_change] at same
    omega
  have left : now.untilNextMidnight? zone = some (.ofSecs 1800) := by decide
  obtain ⟨_, eq, awaited, -⟩ :=
    midnight_is_awaited (show now.Representable by decide) (by decide) dated
  cases left.symm.trans eq
  obtain ⟨t, later, midnight, least, same⟩ := (awaited ahead).2
    ⟨⟨1289097000, 0⟩, by decide, ⟨by decide, by decide, rfl⟩⟩
  exact ⟨by decide, by decide, dated, ahead, left, t, later, midnight, least, same.symm⟩

/-- Half an hour before the same midnight came again, nothing was left. -/
theorem repeated_midnight_is_not_awaited :
    let zone : Zone := .change 1289097060 (-9000) (-12600)
    let now : Instant := ⟨1289098800, 0⟩
    let again : Instant := ⟨1289100600, 0⟩
    now.Representable ∧ now.nanos < 1000000000 ∧ now.HasTomorrow zone ∧
      now.untilNextMidnight? zone = some .zero ∧ now < again ∧
      again.IsMidnight zone (now.localDay zone + 1) ∧ again.nanosSince now = 1800000000000 :=
  ⟨by decide, by decide, ⟨by decide, by decide⟩, by decide, by decide,
    ⟨by decide, by decide, rfl⟩, by decide⟩

end Instant

end TunnelKeeper
