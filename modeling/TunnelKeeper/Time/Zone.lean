import TunnelKeeper.Time.Instant

/-!
Time zones with at most one change of their offset, and the way to the next local midnight.
-/

namespace TunnelKeeper

/-- The offset of local time from UTC, in seconds to the east: always the same, or `before` for
the instants before `change` and `after` from then on. -/
inductive Zone where
  | fixed (offset : Int)
  | change (moment before after : Int)
  deriving DecidableEq, Repr

namespace Zone

def utc : Zone := .fixed 0

/-- The offset in force at `secs` seconds after 1 January 1970. -/
def offsetAt : Zone → Int → Int
  | fixed offset, _ => offset
  | change moment before after, secs => if secs < moment then before else after

/-- The seconds of an instant whose local clock shows `localSecs`. A local time that occurs twice
is the one under the earlier offset, and one that is skipped is none. -/
def earliest? : Zone → Int → Option Int
  | fixed offset, localSecs => some (localSecs - offset)
  | change moment before after, localSecs =>
    if localSecs - before < moment then some (localSecs - before)
    else if moment ≤ localSecs - after then some (localSecs - after)
    else none

end Zone

namespace Instant

def oneDay : Duration := .ofSecs 86400

/-- The local midnight after `now`: the first second of the day after the local date, if that day
is one of the calendar and its midnight exists. -/
def nextMidnight? (zone : Zone) (now : Instant) : Option Instant := do
  let day := (now.secs + zone.offsetAt now.secs) / 86400 + 1
  if day ≤ Date.maxDay then ofUnixSecs? (← zone.earliest? (day * 86400)) else none

/-- The time from `now` to the next local midnight, 24 hours if there is none. It is undefined
when the local time itself leaves the calendar. -/
def untilNextMidnight? (zone : Zone) (now : Instant) : Option Duration :=
  let localSecs := now.secs + zone.offsetAt now.secs
  if minSecs ≤ localSecs ∧ localSecs ≤ maxSecs then
    match now.nextMidnight? zone with
    | some midnight => some (midnight.timeUntil now)
    | none => some oneDay
  else none

end Instant

end TunnelKeeper
