/-!
The shortest decimal of a binary floating-point number: the fewest digits that read back as the
number, and among those the nearest to it.

A finite number is `m * 2 ^ e`. The decimals that read back as it lie between the points half way
to its neighbours, the ends included when `m` is even.
-/

namespace TunnelKeeper.Decimal

/-- A positive number `significand * 2 ^ exponent`; `narrow` says that the gap below it is half of
the gap above it, as it is for a power of two. -/
structure Binary where
  significand : Nat
  exponent : Int
  narrow : Bool

/-- The number of a finite double, without its sign. -/
def Binary.ofBits (bits : UInt64) : Binary :=
  let fraction : Nat := bits.toNat % Nat.pow 2 52
  let biased : Nat := bits.toNat / Nat.pow 2 52 % Nat.pow 2 11
  if biased = 0 then ⟨fraction, -1074, false⟩
  else ⟨Nat.pow 2 52 + fraction, (biased : Int) - 1075, fraction = 0 && biased ≠ 1⟩

/-- `10 ^ n` as a fraction. -/
def tenPower (n : Int) : Nat × Nat := if 0 ≤ n then (Nat.pow 10 n.toNat, 1) else (1, Nat.pow 10 (-n).toNat)

def twoPower (n : Int) : Nat × Nat := if 0 ≤ n then (Nat.pow 2 n.toNat, 1) else (1, Nat.pow 2 (-n).toNat)

/-- The order of the fractions `a` and `b`. -/
def compareFractions (a b : Nat × Nat) : Ordering := compare (a.1 * b.2) (b.1 * a.2)

/-- The decimal `digits * 10 ^ scale` reads back as the number. -/
def Binary.reads (x : Binary) (digits : Nat) (scale : Int) : Bool :=
  let ten := tenPower scale
  let two := twoPower (x.exponent - 2)
  let decimal := (digits * ten.1, ten.2)
  let low := ((4 * x.significand - (if x.narrow then 1 else 2)) * two.1, two.2)
  let high := ((4 * x.significand + 2) * two.1, two.2)
  let closed := x.significand % 2 = 0
  match compareFractions low decimal, compareFractions decimal high with
  | .lt, .lt => true
  | .eq, .lt => closed
  | .lt, .eq => closed
  | _, _ => false

/-- The number in units of `10 ^ scale`: the whole part, and how twice the rest compares with one
unit. -/
def Binary.inUnits (x : Binary) (scale : Int) : Nat × Ordering :=
  let ten := tenPower scale
  let two := twoPower x.exponent
  let num := x.significand * two.1 * ten.2
  let den := two.2 * ten.1
  (num / den, compare (2 * (num % den)) den)

/-- The digits at a scale that read back: the nearer neighbour first, at a tie the even one. -/
def Binary.digitsAt? (x : Binary) (scale : Int) : Option Nat :=
  let (down, half) := x.inUnits scale
  let nearFirst := match half with
    | .lt => [down, down + 1]
    | .gt => [down + 1, down]
    | .eq => if down % 2 = 0 then [down, down + 1] else [down + 1, down]
  nearFirst.find? fun digits => digits ≠ 0 && x.reads digits scale

/-- The digits and the scale of the shortest decimal, searched from the largest scale down. -/
def Binary.shortestFrom (x : Binary) : Nat → Int → Nat × Int
  | 0, scale => ((x.inUnits scale).1, scale)
  | steps + 1, scale =>
    match x.digitsAt? scale with
    | some digits => (digits, scale)
    | none => x.shortestFrom steps (scale - 1)

/-- The digits, without trailing zeros, and the scale of the shortest decimal of a positive
number. -/
def Binary.shortest (x : Binary) : Nat × Int := x.shortestFrom 700 309

end TunnelKeeper.Decimal
