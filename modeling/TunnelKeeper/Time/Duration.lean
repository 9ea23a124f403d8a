/-!
Lengths of time, as settings and timers carry them: whole seconds of 64 bits and nanoseconds.
A duration has a short text in the largest unit that fits it, and a timer counts it in whole
milliseconds, rounded up.
-/

namespace TunnelKeeper

/-- A length of time. -/
structure Duration where
  secs : UInt64
  nanos : Fin 1000000000
  deriving DecidableEq, Repr, Inhabited

namespace Duration

def zero : Duration := ⟨0, 0⟩

/-- The duration of `n` whole seconds. -/
def ofSecs (n : UInt64) : Duration := ⟨n, 0⟩

/-- The length in nanoseconds. Durations are compared by it. -/
def toNanos (d : Duration) : Nat := d.secs.toNat * 1000000000 + d.nanos.val

instance : LE Duration := ⟨fun a b => a.toNanos ≤ b.toNanos⟩
instance : LT Duration := ⟨fun a b => a.toNanos < b.toNanos⟩
instance (a b : Duration) : Decidable (a ≤ b) := inferInstanceAs (Decidable (a.toNanos ≤ b.toNanos))
instance (a b : Duration) : Decidable (a < b) := inferInstanceAs (Decidable (a.toNanos < b.toNanos))

/-- The whole seconds of a duration. -/
def truncate (d : Duration) : Duration := ofSecs d.secs

/-- The duration of `n` nanoseconds, if its seconds fit 64 bits. -/
def ofNanos? (n : Nat) : Option Duration :=
  if n / 1000000000 < UInt64.size then
    some ⟨(n / 1000000000).toUInt64, ⟨n % 1000000000, Nat.mod_lt _ (by decide)⟩⟩
  else none

/-- The sum, unless its seconds leave 64 bits. -/
def add? (a b : Duration) : Option Duration := ofNanos? (a.toNanos + b.toNanos)

/-- The first millisecond that is not before the end of the duration: a timer set for `d` fires
after so many milliseconds. -/
def ceilMillis (d : Duration) : Nat := d.secs.toNat * 1000 + (d.nanos.val + 999999) / 1000000

/-! ### Text -/

/-- The digits of `n < 10 ^ width`, padded to `width` and without trailing zeros. -/
def fractionDigits (width n : Nat) : List Char :=
  let digits := Nat.toDigits 10 n
  let padded := List.replicate (width - digits.length) '0' ++ digits
  (padded.reverse.dropWhile (· = '0')).reverse

/-- `whole` units and `part` of `10 ^ width` parts of one, with the unit's name. -/
def decimalText (whole part width : Nat) (unit : String) : String :=
  let fraction := if part = 0 then "" else "." ++ String.ofList (fractionDigits width part)
  toString whole ++ fraction ++ unit

/-- A duration is written in the largest of `s`, `ms`, `µs` and `ns` of which it has at least
one, with as many decimals as it needs: `30s`, `1.5ms`, `0ns`. -/
def text (d : Duration) : String :=
  let n := d.nanos.val
  if 0 < d.secs then decimalText d.secs.toNat n 9 "s"
  else if 1000000 ≤ n then decimalText (n / 1000000) (n % 1000000) 6 "ms"
  else if 1000 ≤ n then decimalText (n / 1000) (n % 1000) 3 "µs"
  else decimalText n 0 0 "ns"

end Duration

end TunnelKeeper
