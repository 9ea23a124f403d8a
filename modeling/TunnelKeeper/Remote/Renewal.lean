import TunnelKeeper.Time.Instant

/-!
When a certificate is renewed: once it expires within a threshold, and always when nobody knows
when it expires.
-/

namespace TunnelKeeper

/-- The certificate expires within `threshold` seconds from now. It is undefined when the end of
that time leaves the calendar. -/
def renewalDue? (expire : Option Instant) (now : Instant) (threshold : Int) : Option Bool :=
  match expire with
  | none => some true
  | some expire => (now.addSecs? threshold).map fun limit => expire ≤ limit

/-- A renewal that fails is worth a warning: the same test, with the threshold of warnings. -/
def renewalUrgent? (expire : Option Instant) (now : Instant) (threshold : Int) : Option Bool :=
  renewalDue? expire now threshold

end TunnelKeeper
