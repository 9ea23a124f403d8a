/-!
The calendar: day numbers counted from 1 January 1970 and dates of the Gregorian calendar,
extended to all years from -262143 to 262142.
-/

namespace TunnelKeeper

/-- A year, a month and a day of the month. -/
structure Date where
  year : Int
  month : Nat
  day : Nat
  deriving DecidableEq, Repr, Inhabited

namespace Date

def isLeap (year : Int) : Bool := year % 4 = 0 && (year % 100 ≠ 0 || year % 400 = 0)

def daysInMonth (year : Int) (month : Nat) : Nat :=
  if month = 2 then (if isLeap year then 29 else 28)
  else if month = 4 ∨ month = 6 ∨ month = 9 ∨ month = 11 then 30 else 31

/-- The years that a date may have. -/
def minYear : Int := -262143
def maxYear : Int := 262142

/-- The month and the day exist. -/
def Valid (d : Date) : Prop :=
  minYear ≤ d.year ∧ d.year ≤ maxYear ∧ 1 ≤ d.month ∧ d.month ≤ 12 ∧
    1 ≤ d.day ∧ d.day ≤ daysInMonth d.year d.month

instance (d : Date) : Decidable d.Valid := by unfold Valid; infer_instance

/-- Days before the first of `month`, counted from 1 March, of a year that starts there. -/
def daysBeforeMonth (month : Nat) : Nat := (153 * ((month + 9) % 12) + 2) / 5

/-- The number of the day, 0 for 1 January 1970. Years are counted from March, so that the leap
day comes last, in groups of 400 years, which are 146097 days long. -/
def toDays (d : Date) : Int :=
  let year := if d.month ≤ 2 then d.year - 1 else d.year
  let era := year / 400
  let yearOfEra := year % 400
  era * 146097 + (yearOfEra * 365 + yearOfEra / 4 - yearOfEra / 100)
    + (daysBeforeMonth d.month + d.day : Nat) - 719469

/-- The date of a day number. -/
def ofDays (days : Int) : Date :=
  let shifted := days + 719468
  let era := shifted / 146097
  let dayOfEra := (shifted % 146097).toNat
  let yearOfEra := (dayOfEra - dayOfEra / 1460 + dayOfEra / 36524 - dayOfEra / 146096) / 365
  let dayOfYear := dayOfEra - (365 * yearOfEra + yearOfEra / 4 - yearOfEra / 100)
  let marchMonth := (5 * dayOfYear + 2) / 153
  let month := if marchMonth < 10 then marchMonth + 3 else marchMonth - 9
  let year : Int := era * 400 + yearOfEra
  ⟨if month ≤ 2 then year + 1 else year, month, dayOfYear - (153 * marchMonth + 2) / 5 + 1⟩

/-- The numbers of the first and the last day of the calendar. -/
def minDay : Int := -96465292
def maxDay : Int := 95026236

example : (⟨minYear, 1, 1⟩ : Date).toDays = minDay := by decide
example : (⟨maxYear, 12, 31⟩ : Date).toDays = maxDay := by decide
example : ofDays 0 = ⟨1970, 1, 1⟩ := by decide
example : ofDays 19782 = ⟨2024, 2, 29⟩ := by decide

end Date

end TunnelKeeper
