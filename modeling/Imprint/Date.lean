import Imprint.Decimal

/-!
# Date — a day of the Gregorian calendar

The calendar is extended backwards before its introduction, with a year 0 that is a leap year.
A date carries the proof that its day exists.  It is written year first, with at least four digits
for the year and a sign where the year is not one of 0 to 9999, and two digits for month and day.
-/

namespace Imprint

namespace Date

/-- A year with a 29th of February. -/
def IsLeap (year : Int) : Prop := year % 4 = 0 ∧ (year % 100 ≠ 0 ∨ year % 400 = 0)

instance (year : Int) : Decidable (IsLeap year) := inferInstanceAs (Decidable (_ ∧ _))

/-- The number of days of a month. -/
def monthLength (year : Int) (month : Nat) : Nat :=
  if month = 2 then (if IsLeap year then 29 else 28)
  else if month = 4 ∨ month = 6 ∨ month = 9 ∨ month = 11 then 30
  else 31

/-- A day that exists, in one of the years that are supported. -/
def Valid (year : Int) (month day : Nat) : Prop :=
  (-262143 ≤ year ∧ year ≤ 262142) ∧ (1 ≤ month ∧ month ≤ 12) ∧
    (1 ≤ day ∧ day ≤ monthLength year month)

instance (year : Int) (month day : Nat) : Decidable (Valid year month day) :=
  inferInstanceAs (Decidable (_ ∧ _))

end Date

/-- A day of the calendar. -/
structure Date where
  year  : Int
  month : Nat
  day   : Nat
  valid : Date.Valid year month day
  deriving DecidableEq, Repr

namespace Date

/-- The date with these numbers, if there is one. -/
def ofNumbers? (year : Int) (month day : Nat) : Option Date :=
  if h : Valid year month day then some ⟨year, month, day, h⟩ else none

/-- The year as it is written. -/
def yearText (year : Int) : Text :=
  let number := (digits year.natAbs).leftpad 4 '0'
  if 0 ≤ year ∧ year ≤ 9999 then number
  else (if 0 ≤ year then '+' else '-') :: number

example : yearText 33 = "0033".toList := by decide
example : yearText 10000 = "+10000".toList := by decide
example : yearText (-1) = "-0001".toList := by decide

/-- The date as it is written. -/
def toText (d : Date) : Text :=
  yearText d.year ++ '-' :: (digits d.month).leftpad 2 '0' ++ '-' :: (digits d.day).leftpad 2 '0'

end Date

end Imprint
