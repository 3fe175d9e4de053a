/-!
# Calendar dates

Days of the proleptic Gregorian calendar. A `Date` exists only with a month from 1 to 12 and a
day that this month has in this year.
-/

namespace Coursework.Calendar

/-- Years divisible by four have a leap day, those divisible by a hundred only if four hundred
divides them. -/
def isLeap (year : Int) : Bool :=
  year % 4 == 0 && (year % 100 != 0 || year % 400 == 0)

/-- The number of days of a month, zero if there is no such month. -/
def daysIn (year : Int) (month : Nat) : Nat :=
  if month = 2 then (if isLeap year then 29 else 28)
  else if month ∈ [4, 6, 9, 11] then 30
  else if 1 ≤ month ∧ month ≤ 12 then 31
  else 0

/-- A day of the calendar. -/
structure Date where
  year : Int
  month : Nat
  day : Nat
  month_bounds : 1 ≤ month ∧ month ≤ 12
  day_bounds : 1 ≤ day ∧ day ≤ daysIn year month
  deriving DecidableEq

namespace Date

/-- The day of these numbers, if the calendar has it. -/
def make? (year : Int) (month day : Nat) : Option Date :=
  if h : (1 ≤ month ∧ month ≤ 12) ∧ 1 ≤ day ∧ day ≤ daysIn year month then
    some ⟨year, month, day, h.1, h.2⟩
  else none

/-- The last day of its month. -/
def isMonthEnd (date : Date) : Bool :=
  date.day == daysIn date.year date.month

theorem make?_eq_some_iff {year : Int} {month day : Nat} {date : Date} :
    make? year month day = some date ↔
      date.year = year ∧ date.month = month ∧ date.day = day := by
  unfold make?
  constructor
  · intro h
    split at h
    · cases h
      exact ⟨rfl, rfl, rfl⟩
    · contradiction
  · rintro ⟨rfl, rfl, rfl⟩
    simp [date.month_bounds, date.day_bounds]

end Date

/-- The name of a month, by its number from 1. -/
def monthName (month : Nat) : String :=
  ["January", "February", "March", "April", "May", "June", "July", "August", "September",
    "October", "November", "December"].getD (month - 1) ""

end Coursework.Calendar
