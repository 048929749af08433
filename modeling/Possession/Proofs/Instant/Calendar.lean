import Mathlib.Tactic.Ring
import Possession.Instant.Basic

/-!
# The calendar

Numbering the days and naming them are inverse to each other, and so are counting the seconds and
telling the time. Days are named in cycles of four hundred years: a day of a cycle is found in a
year that begins with March, and then in a month of that year.

* `yearOfDay_spec` finds the year, `monthOfDay_spec` the month.
* `Date.toDays_ofDays` and `Moment.toSeconds_ofSeconds` put both together.
-/

namespace Possession
namespace Date

/-! ## Years of a cycle -/

/-- The days of a cycle before a year of it. -/
def daysBeforeYear (year : Nat) : Nat :=
  365 * year + year / 4 - year / 100 + year / 400

/-- The year to which a day of a cycle belongs. -/
def yearOfDay (day : Nat) : Nat :=
  (day - day / 1460 + day / 36524 - day / 146096) / 365

/-- The year is right on its first and on its last day. -/
theorem yearOfDay_ends : ∀ year < 400, yearOfDay (daysBeforeYear year) = year ∧
    yearOfDay (daysBeforeYear (year + 1) - 1) = year := by
  decide +kernel

theorem yearOfDay_mono {earlier later : Nat} (h : earlier ≤ later) (hlater : later < 146097) :
    yearOfDay earlier ≤ yearOfDay later := by
  induction later, h using Nat.le_induction with
  | base => exact Nat.le_refl _
  | succ day hle ih =>
    refine le_trans (ih (by omega)) (Nat.div_le_div_right ?_)
    omega

/-- A day lies between the first and the last day of its year. -/
theorem yearOfDay_spec {day : Nat} (h : day < 146097) :
    yearOfDay day < 400 ∧ daysBeforeYear (yearOfDay day) ≤ day ∧
      day < daysBeforeYear (yearOfDay day + 1) := by
  have hyear : yearOfDay day < 400 := by
    have hlast := yearOfDay_mono (Nat.le_of_lt_succ h) (by omega)
    have hend : yearOfDay 146096 = 399 := by decide +kernel
    omega
  refine ⟨hyear, ?_, ?_⟩
  · -- an earlier day belongs to the year before at the latest
    by_contra hearly
    have hpos : yearOfDay day ≠ 0 := by
      intro hzero
      rw [hzero] at hearly
      exact hearly (Nat.zero_le _)
    have hbefore := (yearOfDay_ends (yearOfDay day - 1) (by omega)).2
    rw [Nat.sub_add_cancel (by omega)] at hbefore
    have hbound : daysBeforeYear (yearOfDay day) < 146097 := by
      unfold daysBeforeYear
      omega
    have hmono := yearOfDay_mono (show day ≤ daysBeforeYear (yearOfDay day) - 1 by omega) (by omega)
    omega
  · -- a later day belongs to the year after at the earliest
    by_contra hlate
    by_cases hlast : yearOfDay day = 399
    · rw [hlast] at hlate
      exact hlate h
    · have hafter := (yearOfDay_ends (yearOfDay day + 1) (by omega)).1
      have hmono := yearOfDay_mono (show daysBeforeYear (yearOfDay day + 1) ≤ day by omega) h
      omega

/-! ## Months of a year -/

/-- The month in which a day of a year lies, counted from March. -/
def monthOfDay (dayOfYear : Nat) : Nat :=
  (5 * dayOfYear + 2) / 153

/-- The month as the calendar numbers it. -/
def monthNumber (index : Nat) : Nat :=
  if index < 10 then index + 3 else index - 9

/-- The day of the month, from one on. -/
def dayOfMonth (dayOfYear : Nat) : Nat :=
  dayOfYear - daysBeforeMonth (monthOfDay dayOfYear) + 1

/-- The length of a month, from March on, in a year with a leap day. -/
def longestMonth (index : Nat) : Nat :=
  if index = 11 then 29 else monthLength 0 (monthNumber index)

/-- A day lies in its month, and only the leap day is the last of the longest February. -/
theorem monthOfDay_spec : ∀ dayOfYear < 366,
    monthOfDay dayOfYear < 12 ∧ daysBeforeMonth (monthOfDay dayOfYear) ≤ dayOfYear ∧
      dayOfMonth dayOfYear ≤ longestMonth (monthOfDay dayOfYear) ∧
      (monthOfDay dayOfYear = 11 → dayOfMonth dayOfYear = 29 → dayOfYear = 365) := by
  decide +kernel

theorem monthNumber_spec {index : Nat} (h : index < 12) :
    1 ≤ monthNumber index ∧ monthNumber index ≤ 12 ∧ (monthNumber index + 9) % 12 = index ∧
      (monthNumber index = 2 ↔ index = 11) := by
  unfold monthNumber
  split
  · omega
  · omega

theorem monthLength_le (year : Int) (month : Nat) : monthLength year month ≤ 31 := by
  unfold monthLength
  split
  · split
    · omega
    · omega
  · split
    · omega
    · omega

/-! ## Days -/

/-- The day of a year in a cycle. -/
def ofParts (cycle : Int) (year dayOfYear : Nat) : Date :=
  let month := monthNumber (monthOfDay dayOfYear)
  let first := cycle * 400 + Int.ofNat year
  { year := if month ≤ 2 then first + 1 else first
    month
    day := dayOfMonth dayOfYear }

/-- A year has 366 days only if February, which ends it, has a leap day. -/
theorem isLeapYear_of_length {year : Nat} (cycle : Int) (h : year < 400)
    (hlength : daysBeforeYear year + 365 < daysBeforeYear (year + 1)) :
    isLeapYear (cycle * 400 + year + 1) = true := by
  unfold daysBeforeYear at hlength
  have hleap : ((cycle * 400 + year + 1) % 4 = 0 ∧ (cycle * 400 + year + 1) % 100 ≠ 0) ∨
      (cycle * 400 + year + 1) % 400 = 0 := by
    omega
  simpa [isLeapYear] using hleap

/-- Every day is a day of a year in a cycle. -/
theorem exists_ofDays (days : Int) : ∃ (cycle : Int) (year dayOfYear : Nat),
    year < 400 ∧ daysBeforeYear year + dayOfYear < daysBeforeYear (year + 1) ∧
      days + 719468 = cycle * 146097 + (daysBeforeYear year + dayOfYear : Nat) ∧
      ofDays days = ofParts cycle year dayOfYear := by
  have hday : ((days + 719468) % 146097).toNat < 146097 := by omega
  rcases yearOfDay_spec hday with ⟨hyear, hfirst, hlast⟩
  refine ⟨(days + 719468) / 146097, yearOfDay ((days + 719468) % 146097).toNat,
    ((days + 719468) % 146097).toNat -
      daysBeforeYear (yearOfDay ((days + 719468) % 146097).toNat), hyear, ?_, ?_, ?_⟩
  · omega
  · omega
  · have hbefore : daysBeforeYear (yearOfDay ((days + 719468) % 146097).toNat) =
        365 * yearOfDay ((days + 719468) % 146097).toNat +
          yearOfDay ((days + 719468) % 146097).toNat / 4 -
          yearOfDay ((days + 719468) % 146097).toNat / 100 := by
      rw [daysBeforeYear, Nat.div_eq_of_lt hyear, Nat.add_zero]
    rw [hbefore]
    rfl

theorem lt_of_daysBeforeYear {year dayOfYear : Nat}
    (h : daysBeforeYear year + dayOfYear < daysBeforeYear (year + 1)) : dayOfYear < 366 := by
  unfold daysBeforeYear at h
  omega

/-- The name of a day is that of a day in the calendar. -/
theorem ofDays_valid (days : Int) :
    1 ≤ (ofDays days).month ∧ (ofDays days).month ≤ 12 ∧ 1 ≤ (ofDays days).day ∧
      (ofDays days).day ≤ monthLength (ofDays days).year (ofDays days).month := by
  rcases exists_ofDays days with ⟨cycle, year, dayOfYear, hyear, hlength, -, hdate⟩
  rcases monthOfDay_spec dayOfYear (lt_of_daysBeforeYear hlength) with ⟨hindex, -, hday, hleap⟩
  rcases monthNumber_spec hindex with ⟨hlow, hhigh, -, hfebruary⟩
  rw [hdate]
  refine ⟨hlow, hhigh, Nat.le_add_left 1 _, ?_⟩
  simp only [ofParts]
  rw [longestMonth] at hday
  by_cases heleven : monthOfDay dayOfYear = 11
  · rw [if_pos heleven] at hday
    have hmonth := hfebruary.mpr heleven
    rw [hmonth, if_pos (by omega), monthLength, if_pos rfl]
    split
    · exact hday
    · next hcommon =>
      -- the twenty-ninth is the last of 366 days
      by_contra hlate
      have hlast := hleap heleven (by omega)
      rw [hlast] at hlength
      exact hcommon (isLeapYear_of_length cycle hyear hlength)
  · rw [if_neg heleven] at hday
    have hmonth : monthNumber (monthOfDay dayOfYear) ≠ 2 := fun h => heleven (hfebruary.mp h)
    rw [monthLength, if_neg hmonth] at hday ⊢
    exact hday

/-- Naming a day and numbering it again leads back. -/
theorem toDays_ofDays (days : Int) : (ofDays days).toDays = days := by
  rcases exists_ofDays days with ⟨cycle, year, dayOfYear, hyear, hlength, hdays, hdate⟩
  rcases monthOfDay_spec dayOfYear (lt_of_daysBeforeYear hlength) with ⟨hindex, hmonth, -, -⟩
  rcases monthNumber_spec hindex with ⟨-, -, hback, -⟩
  have hyearBack : (if (ofParts cycle year dayOfYear).month ≤ 2 then
      (ofParts cycle year dayOfYear).year - 1 else (ofParts cycle year dayOfYear).year) =
        cycle * 400 + Int.ofNat year := by
    simp only [ofParts]
    split
    · ring
    · rfl
  have hindexBack : ((ofParts cycle year dayOfYear).month + 9) % 12 = monthOfDay dayOfYear := hback
  have hdayBack : daysBeforeMonth (monthOfDay dayOfYear) + (ofParts cycle year dayOfYear).day =
      dayOfYear + 1 := by
    simp only [ofParts, dayOfMonth]
    omega
  rw [hdate, toDays, hyearBack, hindexBack]
  unfold daysBeforeYear at hdays
  simp only [Int.ofNat_eq_natCast]
  omega

end Date

/-! ## Seconds -/

namespace Moment

theorem ofSeconds_valid (seconds : Int) :
    (ofSeconds seconds).hour ≤ 23 ∧ (ofSeconds seconds).minute ≤ 59 ∧
      (ofSeconds seconds).second ≤ 59 := by
  simp only [ofSeconds, secondsPerDay]
  omega

/-- Telling the time and counting the seconds again leads back. -/
theorem toSeconds_ofSeconds (seconds : Int) : (ofSeconds seconds).toSeconds = seconds := by
  simp only [toSeconds, ofSeconds, secondsPerDay, Date.toDays_ofDays, Int.ofNat_eq_natCast]
  omega

theorem second_ofSeconds (seconds : Int) :
    ((ofSeconds seconds).second : Int) = seconds % 60 := by
  simp only [ofSeconds, secondsPerDay]
  omega

end Moment

end Possession
