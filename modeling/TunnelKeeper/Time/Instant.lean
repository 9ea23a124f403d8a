import TunnelKeeper.Time.Calendar
import TunnelKeeper.Time.Duration

/-!
Points in time, counted in seconds since 1 January 1970 in UTC. A second may be followed by a leap
second: then the nanoseconds run on from one to two milliards. Differences, sums and comparisons
treat it as the second that it is. Only at the end of a minute can a time of day tell it from the
second that comes next.
-/

namespace TunnelKeeper

/-- A point in time. -/
structure Instant where
  secs : Int
  nanos : Nat
  deriving DecidableEq, Repr, Inhabited

namespace Instant

def minSecs : Int := Date.minDay * 86400
def maxSecs : Int := Date.maxDay * 86400 + 86399

/-- The day is one of the calendar, and no more than one leap second follows the second. -/
def Representable (t : Instant) : Prop :=
  minSecs ≤ t.secs ∧ t.secs ≤ maxSecs ∧ t.nanos < 2000000000

instance (t : Instant) : Decidable t.Representable := by unfold Representable; infer_instance

/-- If this is a leap second, it is at the end of a minute. -/
def LeapEndsMinute (t : Instant) : Prop := t.nanos < 1000000000 ∨ t.secs % 60 = 59

instance (t : Instant) : Decidable t.LeapEndsMinute := by unfold LeapEndsMinute; infer_instance

/-- `t`, if it is a point in time of the calendar. -/
def checked (t : Instant) : Option Instant := if t.Representable then some t else none

/-- The instant so many whole seconds after 1 January 1970. -/
def ofUnixSecs? (secs : Int) : Option Instant := checked ⟨secs, 0⟩

/-- The instant so many milliseconds after 1 January 1970. -/
def ofUnixMillis (ms : Int) : Instant := ⟨ms / 1000, (ms % 1000).toNat * 1000000⟩

instance : LT Instant := ⟨fun a b => a.secs < b.secs ∨ a.secs = b.secs ∧ a.nanos < b.nanos⟩
instance : LE Instant := ⟨fun a b => a.secs < b.secs ∨ a.secs = b.secs ∧ a.nanos ≤ b.nanos⟩
instance (a b : Instant) : Decidable (a < b) :=
  inferInstanceAs (Decidable (a.secs < b.secs ∨ a.secs = b.secs ∧ a.nanos < b.nanos))
instance (a b : Instant) : Decidable (a ≤ b) :=
  inferInstanceAs (Decidable (a.secs < b.secs ∨ a.secs = b.secs ∧ a.nanos ≤ b.nanos))

/-- The second of the day. -/
def secondOfDay (t : Instant) : Int := t.secs % 86400

/-- The leap second that a count of seconds from `b` to `a` misses: one in `b` adds a second when
`a` is later in its day, one in `a` takes one away when `a` is earlier in its day. -/
def leapBetween (a b : Instant) : Int :=
  if a.secondOfDay > b.secondOfDay then (if 1000000000 ≤ b.nanos then 1 else 0)
  else if a.secondOfDay < b.secondOfDay then (if 1000000000 ≤ a.nanos then -1 else 0)
  else 0

/-- The nanoseconds from `b` to `a`, negative if `a` comes first. -/
def nanosSince (a b : Instant) : Int :=
  (a.secs - b.secs + leapBetween a b) * 1000000000 + (a.nanos - b.nanos)

/-- The time from `now` to `deadline`, zero if it has passed. -/
def timeUntil (deadline now : Instant) : Duration :=
  (Duration.ofNanos? (deadline.nanosSince now).toNat).getD .zero

/-- The instant `n` seconds later, or `none` if it leaves the calendar. Leaving a leap second
forwards gives up the second it adds, leaving it backwards counts it. -/
def addSecs? (t : Instant) (n : Int) : Option Instant :=
  if t.nanos < 1000000000 ∨ n = 0 then checked ⟨t.secs + n, t.nanos⟩
  else if 0 < n then checked ⟨t.secs + n, t.nanos - 1000000000⟩
  else checked ⟨t.secs + 1 + n, t.nanos - 1000000000⟩

end Instant

end TunnelKeeper
