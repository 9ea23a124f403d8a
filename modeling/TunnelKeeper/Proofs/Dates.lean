import Mathlib.Logic.Basic
import TunnelKeeper.Time.Calendar

/-!
The dates of the calendar: each day number has one, and its number is found again from it.

Eras of 400 years start on a 1 March, and so do their years. A day number is taken apart into an
era, a year of it and a day of that year (`exists_marchDate`); of these the date is made.
-/

namespace TunnelKeeper.Date

/-! ### The years of an era -/

/-- The days before the year `y` of 400 years that start in March. -/
def daysBeforeYear (y : Nat) : Nat := 365 * y + y / 4 - y / 100 + y / 400

/-- The days up to `day` without the leap days. -/
def commonDays (day : Nat) : Nat := day - day / 1460 + day / 36524 - day / 146096

lemma daysBeforeYear_succ (y : Nat) : daysBeforeYear (y + 1) ≤ daysBeforeYear y + 366 := by
  unfold daysBeforeYear
  omega

lemma commonDays_succ {day : Nat} (inside : day + 1 < 146097) :
    commonDays day ≤ commonDays (day + 1) := by
  unfold commonDays
  omega

lemma commonDays_mono {a b : Nat} (le : a ≤ b) (inside : b < 146097) :
    commonDays a ≤ commonDays b := by
  induction le with
  | refl => exact Nat.le_refl _
  | step _ ih => exact Nat.le_trans (ih (by omega)) (commonDays_succ inside)

/-- The first and the last day of each year are counted to it. -/
lemma commonDays_year : ∀ y < 400, 365 * y ≤ commonDays (daysBeforeYear y) ∧
    commonDays (daysBeforeYear (y + 1) - 1) < 365 * (y + 1) := by
  decide +kernel

lemma exists_year {n day : Nat} (before : day < daysBeforeYear n) :
    ∃ y < n, daysBeforeYear y ≤ day ∧ day < daysBeforeYear (y + 1) := by
  induction n with
  | zero => cases before
  | succ n ih =>
    by_cases last : daysBeforeYear n ≤ day
    · exact ⟨n, Nat.lt_succ_self n, last, before⟩
    · obtain ⟨y, earlier, found⟩ := ih (by omega)
      exact ⟨y, Nat.lt_succ_of_lt earlier, found⟩

/-- Of the days of an era the years are found by counting the common days. -/
lemma commonDays_div {day : Nat} (inside : day < 146097) :
    commonDays day / 365 < 400 ∧ daysBeforeYear (commonDays day / 365) ≤ day ∧
      day < daysBeforeYear (commonDays day / 365 + 1) := by
  have era : day < daysBeforeYear 400 := inside
  obtain ⟨y, few, first, last⟩ := exists_year era
  obtain ⟨least, most⟩ := commonDays_year y few
  have whole : daysBeforeYear (y + 1) ≤ 146097 := by
    unfold daysBeforeYear
    omega
  have low := commonDays_mono first inside
  have high : commonDays day ≤ commonDays (daysBeforeYear (y + 1) - 1) :=
    commonDays_mono (by omega) (by omega)
  have year : commonDays day / 365 = y := by omega
  rw [year]
  exact ⟨few, first, last⟩

/-- The date `dayOfYear` days after 1 March of the year `y` of an era. -/
def marchDate (era : Int) (y dayOfYear : Nat) : Date :=
  let marchMonth := (5 * dayOfYear + 2) / 153
  let month := if marchMonth < 10 then marchMonth + 3 else marchMonth - 9
  let year : Int := era * 400 + y
  ⟨if month ≤ 2 then year + 1 else year, month, dayOfYear - (153 * marchMonth + 2) / 5 + 1⟩

lemma exists_marchDate (days : Int) : ∃ (era : Int) (y dayOfYear : Nat),
    ofDays days = marchDate era y dayOfYear ∧ y < 400 ∧ dayOfYear < 366 ∧
      daysBeforeYear y + dayOfYear < daysBeforeYear (y + 1) ∧
      days = era * 146097 + (daysBeforeYear y + dayOfYear : Nat) - 719468 := by
  have inside : ((days + 719468) % 146097).toNat < 146097 := by omega
  obtain ⟨few, first, last⟩ := commonDays_div inside
  have days_eq : (((days + 719468) % 146097).toNat : Int) = (days + 719468) % 146097 := by omega
  generalize whole : ((days + 719468) % 146097).toNat = day at *
  have same : daysBeforeYear (commonDays day / 365) =
      365 * (commonDays day / 365) + commonDays day / 365 / 4 - commonDays day / 365 / 100 := by
    unfold daysBeforeYear
    omega
  have long := daysBeforeYear_succ (commonDays day / 365)
  refine ⟨(days + 719468) / 146097, commonDays day / 365,
    day - daysBeforeYear (commonDays day / 365), ?_, few, by omega, by omega, by omega⟩
  rw [same, ofDays, whole]
  rfl

/-! ### The days of a year -/

/-- The twelve months hold the days of a common year, and a leap day comes last. -/
lemma month_marchDate : ∀ dayOfYear < 366, let date := marchDate 0 0 dayOfYear
    1 ≤ date.month ∧ date.month ≤ 12 ∧ 1 ≤ date.day ∧
      daysBeforeMonth date.month + date.day = dayOfYear + 1 ∧
      (if dayOfYear < 365 then date.day ≤ daysInMonth 1 date.month
        else date.month = 2 ∧ date.day = 29) := by
  decide +kernel

section MarchDate

variable {era : Int} {y dayOfYear : Nat}

/-- Years that start in March are one behind in January and February. -/
lemma marchYear_marchDate (short : dayOfYear < 366) :
    (if (marchDate era y dayOfYear).month ≤ 2 then (marchDate era y dayOfYear).year - 1
      else (marchDate era y dayOfYear).year) = era * 400 + y := by
  dsimp only [marchDate]
  split <;> split <;> omega

lemma toDays_marchDate (few : y < 400) (short : dayOfYear < 366) :
    (marchDate era y dayOfYear).toDays =
      era * 146097 + (daysBeforeYear y + dayOfYear : Nat) - 719468 := by
  have same : (era * 400 + y) / 400 = era := by omega
  have rest : (era * 400 + y) % 400 = y := by omega
  have day : daysBeforeMonth (marchDate era y dayOfYear).month + (marchDate era y dayOfYear).day =
      dayOfYear + 1 := (month_marchDate dayOfYear short).2.2.2.1
  unfold toDays
  rw [marchYear_marchDate short, day]
  dsimp only
  rw [same, rest, daysBeforeYear]
  omega

/-- A year has a leap day if the one that starts in March before it has 366 days. -/
lemma isLeap_of_long (long : daysBeforeYear y + 365 < daysBeforeYear (y + 1)) :
    isLeap (era * 400 + y + 1) := by
  unfold daysBeforeYear at long
  have years : (era * 400 + y + 1) % 4 = 0 ∧
      ((era * 400 + y + 1) % 100 ≠ 0 ∨ (era * 400 + y + 1) % 400 = 0) := by omega
  simpa [isLeap] using years

lemma daysInMonth_common (year : Int) (month : Nat) :
    daysInMonth 1 month ≤ daysInMonth year month := by
  unfold daysInMonth
  split
  · change 28 ≤ if isLeap year then 29 else 28
    split <;> omega
  · exact Nat.le_refl _

lemma daysInMonth_le (year : Int) (month : Nat) : daysInMonth year month ≤ 31 := by
  unfold daysInMonth
  split
  · split <;> decide
  · split <;> decide

lemma day_marchDate (short : dayOfYear < 366)
    (inside : daysBeforeYear y + dayOfYear < daysBeforeYear (y + 1)) :
    (marchDate era y dayOfYear).day ≤
      daysInMonth (marchDate era y dayOfYear).year (marchDate era y dayOfYear).month := by
  obtain ⟨-, -, -, -, last⟩ := month_marchDate dayOfYear short
  change if dayOfYear < 365 then
    (marchDate era y dayOfYear).day ≤ daysInMonth 1 (marchDate era y dayOfYear).month
    else (marchDate era y dayOfYear).month = 2 ∧ (marchDate era y dayOfYear).day = 29 at last
  split at last
  · exact Nat.le_trans last (daysInMonth_common _ _)
  · obtain rfl : dayOfYear = 365 := by omega
    obtain ⟨month, day⟩ := last
    have year : (marchDate era y 365).year = era * 400 + y + 1 := rfl
    refine Nat.le_of_eq ?_
    rw [month, day, year, daysInMonth, if_pos rfl, isLeap_of_long inside, if_pos rfl]

end MarchDate

/-! ### Dates of day numbers -/

/-- The date of a day number is counted back to it. -/
theorem toDays_ofDays (days : Int) : (ofDays days).toDays = days := by
  obtain ⟨era, y, dayOfYear, eq, few, short, -, whole⟩ := exists_marchDate days
  rw [eq, toDays_marchDate few short, whole]

/-- The days of the calendar have dates in its years. -/
theorem valid_ofDays {days : Int} (first : minDay ≤ days) (last : days ≤ maxDay) :
    (ofDays days).Valid := by
  obtain ⟨era, y, dayOfYear, eq, few, short, inside, whole⟩ := exists_marchDate days
  obtain ⟨least, most, one, -, -⟩ := month_marchDate dayOfYear short
  unfold minDay at first
  unfold maxDay at last
  unfold daysBeforeYear at whole
  rw [eq]
  -- the first and the last year are cut by the calendar, so they stand apart from those around them
  refine ⟨?_, ?_, least, most, one, day_marchDate short inside⟩
  · have early : era ≤ -657 ∨ era = -656 ∧ y ≤ 255 ∨ era = -656 ∧ y = 256 ∨
        -262143 ≤ era * 400 + y := by omega
    show -262143 ≤ _
    dsimp only [marchDate]
    rcases early with early | early | early | early <;> split <;> split <;> omega
  · have late : 656 ≤ era ∨ era = 655 ∧ 143 ≤ y ∨ era = 655 ∧ y = 142 ∨
        era * 400 + y < 262142 := by omega
    show _ ≤ 262142
    dsimp only [marchDate]
    rcases late with late | late | late | late <;> split <;> split <;> omega

end TunnelKeeper.Date
