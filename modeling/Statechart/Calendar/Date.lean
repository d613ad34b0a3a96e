/-
  This file defines dates of the Gregorian calendar, extended
  to all years, and their day numbers. Day 0 is the first of
  January 1970.

  A day number is split by looking for the year and then for
  the month that contain the day, so the date that belongs to
  a day number is found from the same sums that give the day
  number of a date.

  Key definitions include:
    * `Date`
    * `Date.IsValid`
    * `Date.toDay`
    * `Date.ofDay`
-/

namespace Statechart

namespace Calendar

------------------------------------------------------------
-- Years
------------------------------------------------------------

/- Does a year have a 29th of February? -/
def isLeap (year : Int) : Bool :=
  year % 4 == 0 && (year % 100 != 0 || year % 400 == 0)

/- The number of leap years from year 1 to before a year. -/
def leapsBefore (year : Int) : Int :=
  (year - 1) / 4 - (year - 1) / 100 + (year - 1) / 400

/- The day number of the first day of a year. -/
def yearStart (year : Int) : Int :=
  365 * (year - 1970) +
    (leapsBefore year - leapsBefore 1970)

/-
  The year that contains a day. Four hundred years have
  146097 days, so the first guess is off by a year at most.
-/
def yearOfDay (day : Int) : Int :=
  let guess := 1970 + day * 400 / 146097
  if day < yearStart guess then
    guess - 1
  else if yearStart (guess + 1) ≤ day then
    guess + 1
  else
    guess

------------------------------------------------------------
-- Months
------------------------------------------------------------

/- The lengths of the months of a year. -/
def monthLengths (leap : Bool) : List Nat :=
  [31, if leap then 29 else 28, 31, 30, 31, 30,
    31, 31, 30, 31, 30, 31]

/- The number of days before a month, counted from zero. -/
def daysBefore : List Nat → Nat → Nat
  | [], _ => 0
  | _, 0 => 0
  | length :: rest, month + 1 =>
      length + daysBefore rest month

/-
  The month, counted from zero, that contains a day of the
  year, and the day within that month.
-/
def splitMonths : List Nat → Nat → Nat × Nat
  | [], day => (0, day)
  | length :: rest, day =>
      if day < length then
        (0, day)
      else
        let (month, dayOfMonth) :=
          splitMonths rest (day - length)
        (month + 1, dayOfMonth)

------------------------------------------------------------
-- Dates
------------------------------------------------------------

/- A date; months and days are counted from one. -/
structure Date where
  year : Int
  month : Nat
  day : Nat
deriving DecidableEq, Repr

namespace Date

/- The length of a month, zero if there is no such month. -/
def monthLength (year : Int) (month : Nat) : Nat :=
  ((monthLengths (isLeap year))[month - 1]?).getD 0

/- The month exists and has such a day. -/
def IsValid (d : Date) : Prop :=
  1 ≤ d.month ∧ 1 ≤ d.day ∧
    d.day ≤ monthLength d.year d.month

instance (d : Date) : Decidable d.IsValid := by
  unfold IsValid
  infer_instance

/- The day number of a date. -/
def toDay (d : Date) : Int :=
  yearStart d.year +
    (daysBefore (monthLengths (isLeap d.year))
      (d.month - 1) + (d.day - 1) : Nat)

/- The date of a day number. -/
def ofDay (day : Int) : Date :=
  let year := yearOfDay day
  let (month, dayOfMonth) :=
    splitMonths (monthLengths (isLeap year))
      (day - yearStart year).toNat
  ⟨year, month + 1, dayOfMonth + 1⟩

end Date

end Calendar

end Statechart
