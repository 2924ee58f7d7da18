import RelationalQuery.Calendar.Field
import RelationalQuery.Text.Decimal

/-!
# Dates

Dates of the proleptic Gregorian calendar with a year between -262143 and 262142.

Main definitions:

- `Date` is a date that exists; `Date.make?` checks its parts.
- `Date.ofText?` reads `YEAR-MONTH-DAY`, and `Date.text` writes it.
- `Date.dayNumber` counts days from the first of January 2000; `Date.next?` and `Date.previous?` are
  the neighbours.
-/

namespace RelationalQuery

namespace Calendar

/-- The year has a leap day. -/
def isLeapYear (year : Int) : Bool :=
  (year % 4 == 0 && year % 100 != 0) || year % 400 == 0

/-- The number of days of a month, and zero for a number that is no month. -/
def daysInMonth (year : Int) (month : Nat) : Nat :=
  match month with
  | 1 | 3 | 5 | 7 | 8 | 10 | 12 => 31
  | 4 | 6 | 9 | 11 => 30
  | 2 => if isLeapYear year then 29 else 28
  | _ => 0

/-- The least year of a date. -/
def minYear : Int := -262143

/-- The largest year of a date. -/
def maxYear : Int := 262142

end Calendar

open Calendar

/-- A date that exists in the calendar. -/
structure Date where
  year : Int
  month : Nat
  day : Nat
  year_inRange : minYear ≤ year ∧ year ≤ maxYear
  day_inRange : 1 ≤ day ∧ day ≤ daysInMonth year month
deriving DecidableEq

namespace Date

/-- The date with the given parts, when it exists. -/
def make? (year : Int) (month day : Nat) : Option Date :=
  if h : (minYear ≤ year ∧ year ≤ maxYear) ∧ (1 ≤ day ∧ day ≤ daysInMonth year month) then
    some ⟨year, month, day, h.1, h.2⟩
  else none

/-! ## Days in order -/

/-- The number of days from the first of January of year zero to that of the given year. -/
def daysBeforeYear (year : Int) : Int :=
  365 * year + (year + 3).fdiv 4 - (year + 99).fdiv 100 + (year + 399).fdiv 400

/-- The number of days of the year before the given month. -/
def daysBeforeMonth (year : Int) (month : Nat) : Nat :=
  (List.range (month - 1)).foldl (fun days m => days + daysInMonth year (m + 1)) 0

/-- The number of days from the first of January 2000, negative before it. -/
def dayNumber (date : Date) : Int :=
  daysBeforeYear date.year + daysBeforeMonth date.year date.month + (date.day - 1) -
    daysBeforeYear 2000

/-- The day after a date. -/
def next? (date : Date) : Option Date :=
  if date.day < daysInMonth date.year date.month then
    make? date.year date.month (date.day + 1)
  else if date.month < 12 then make? date.year (date.month + 1) 1
  else make? (date.year + 1) 1 1

/-- The day before a date. -/
def previous? (date : Date) : Option Date :=
  if 1 < date.day then make? date.year date.month (date.day - 1)
  else if 1 < date.month then
    make? date.year (date.month - 1) (daysInMonth date.year (date.month - 1))
  else make? (date.year - 1) 12 31

/-! ## Text -/

/-- Read a date at the front of a text. -/
def read? : Reader Date := fun cs => do
  let (year, cs) ← yearField? cs
  let (month, cs) ← field? (← literal? '-' cs)
  let (day, cs) ← field? (← literal? '-' cs)
  return (← make? year month day, cs)

/-- The date written by a whole text. -/
def ofText? (text : String) : Option Date :=
  match read? text.toList with
  | some (date, []) => some date
  | _ => none

/-- The text of a year: four digits, with a sign outside the years 0 to 9999. -/
def yearText (year : Int) : String :=
  let digits := Text.padded 4 year.natAbs
  if 0 ≤ year ∧ year ≤ 9999 then digits
  else (if year < 0 then "-" else "+") ++ digits

/-- The text of a date. -/
def text (date : Date) : String :=
  yearText date.year ++ "-" ++ Text.padded 2 date.month ++ "-" ++ Text.padded 2 date.day

end Date

end RelationalQuery
