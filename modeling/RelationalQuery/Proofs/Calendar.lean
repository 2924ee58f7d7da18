import Mathlib.Algebra.Ring.Int.Defs
import RelationalQuery.Calendar.Timestamp

/-!
# Ranges of dates and timestamps

The years of dates are bounded, so their distance from the beginning of the year 2000 is: in days it
takes less than 32 bits with a sign, and in microseconds less than 64.

Main results:

- `Date.dayNumber_inRange` bounds the number of a day.
- `TimeOfDay.microseconds_lt` and `Timestamp.microseconds_inRange` bound microseconds.
-/

namespace RelationalQuery

open Calendar

/-! ## Months -/

theorem Calendar.daysInMonth_le (year : Int) (month : Nat) : daysInMonth year month ≤ 31 := by
  unfold daysInMonth
  repeat' split
  all_goals omega

/-- A number is that of a month if there are days in it. -/
theorem Calendar.month_inRange {year : Int} {month : Nat} (h : 1 ≤ daysInMonth year month) :
    1 ≤ month ∧ month ≤ 12 := by
  unfold daysInMonth at h
  split at h <;> omega

/-! ## Dates -/

namespace Date

theorem daysBeforeMonth_le (year : Int) (month : Nat) :
    daysBeforeMonth year month ≤ 31 * (month - 1) := by
  unfold daysBeforeMonth
  induction month - 1 with
  | zero => simp
  | succ count ih =>
    have hlast := daysInMonth_le year (count + 1)
    rw [List.range_succ, List.foldl_append, List.foldl_cons, List.foldl_nil]
    omega

theorem daysBeforeYear_eq (year : Int) : daysBeforeYear year =
    365 * year + (year + 3) / 4 - (year + 99) / 100 + (year + 399) / 400 := by
  unfold daysBeforeYear
  rw [Int.fdiv_eq_ediv_of_nonneg _ (by decide), Int.fdiv_eq_ediv_of_nonneg _ (by decide),
    Int.fdiv_eq_ediv_of_nonneg _ (by decide)]

/-- No date is further than 97 million days from the first of January 2000. -/
theorem dayNumber_inRange (date : Date) :
    -97000000 < date.dayNumber ∧ date.dayNumber < 97000000 := by
  obtain ⟨year, month, day, hyear, hday⟩ := date
  have hmonth := month_inRange (Nat.le_trans hday.1 hday.2)
  have hlength := daysInMonth_le year month
  have hbefore := daysBeforeMonth_le year month
  unfold minYear maxYear at hyear
  simp only [dayNumber, daysBeforeYear_eq]
  omega

end Date

/-! ## Times and timestamps -/

/-- A day has less than a hundred billion microseconds, with a leap second at its end too. -/
theorem TimeOfDay.microseconds_lt (time : TimeOfDay) : time.microseconds < 100000000000 := by
  have hsecond := time.second_lt
  have hnanosecond := time.nanosecond_lt
  unfold microseconds
  omega

/-- The microseconds of a timestamp are a signed 64-bit integer. -/
theorem Timestamp.microseconds_inRange (timestamp : Timestamp) :
    -2 ^ 63 ≤ timestamp.microseconds ∧ timestamp.microseconds < 2 ^ 63 := by
  obtain ⟨hleast, hmost⟩ := timestamp.date.dayNumber_inRange
  have hsecond := timestamp.time.second_lt
  have hnanosecond := timestamp.time.nanosecond_lt
  have hsign : Int.sign 1000 = 1 := rfl
  unfold microseconds
  rw [Int.tdiv_eq_ediv, hsign]
  split <;> omega

end RelationalQuery
