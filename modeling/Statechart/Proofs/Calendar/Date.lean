import Statechart.Calendar.Date

/-
  This file states that every day number is the day number of
  its date, and that this date exists.

  Key theorems include:
    * `Calendar.yearStart_succ`
    * `Calendar.yearOfDay_contains`
    * `Calendar.splitMonths_contains`
    * `Calendar.Date.isValid_ofDay`
    * `Calendar.Date.toDay_ofDay`
-/

namespace Statechart

namespace Calendar

------------------------------------------------------------
-- Years
------------------------------------------------------------

/- The number of days in a year. -/
theorem yearStart_succ (year : Int) :
    yearStart (year + 1) =
      yearStart year +
        daysBefore (monthLengths (isLeap year)) 12 := by
  cases hLeap : isLeap year with
  | true =>
      have hDays : daysBefore (monthLengths true) 12 = 366 :=
        rfl
      simp only [isLeap, Bool.and_eq_true, Bool.or_eq_true,
        bne_iff_ne, beq_iff_eq] at hLeap
      rw [hDays]
      unfold yearStart leapsBefore
      omega
  | false =>
      have hDays :
          daysBefore (monthLengths false) 12 = 365 := rfl
      simp only [isLeap, Bool.and_eq_false_iff,
        Bool.or_eq_false_iff, bne_eq_false_iff_eq,
        beq_eq_false_iff_ne] at hLeap
      rw [hDays]
      unfold yearStart leapsBefore
      omega

/-
  The average year has 146097 / 400 days. No year starts two
  days away from where it would start if all were average,
  so the guess is right or misses by one.
-/
theorem yearOfDay_contains (day : Int) :
    yearStart (yearOfDay day) ≤ day ∧
      day < yearStart (yearOfDay day + 1) := by
  obtain ⟨guess, hGuess⟩ :
      ∃ guess, guess = 1970 + day * 400 / 146097 :=
    ⟨_, rfl⟩
  have hYear :
      yearOfDay day =
        if day < yearStart guess then guess - 1
        else if yearStart (guess + 1) ≤ day then guess + 1
        else guess := by
    rw [hGuess]
    rfl
  rw [hYear]
  clear hYear
  split
  · rename_i hEarly
    rw [Int.sub_add_cancel]
    refine ⟨?_, hEarly⟩
    unfold yearStart leapsBefore
    omega
  · split
    · rename_i hLate
      refine ⟨hLate, ?_⟩
      unfold yearStart leapsBefore
      omega
    · rename_i hNotEarly hNotLate
      exact
        ⟨Int.not_lt.mp hNotEarly, Int.not_le.mp hNotLate⟩

------------------------------------------------------------
-- Months
------------------------------------------------------------

/-
  A day of the year lies in one of the months, and it comes
  after the days of the months before.
-/
theorem splitMonths_contains
    {lengths : List Nat}
    {day : Nat}
    (hDay : day < daysBefore lengths lengths.length) :
    (splitMonths lengths day).2 <
        (lengths[(splitMonths lengths day).1]?).getD 0 ∧
      daysBefore lengths (splitMonths lengths day).1 +
          (splitMonths lengths day).2 =
        day := by
  induction lengths generalizing day with
  | nil => cases hDay
  | cons length rest ih =>
      unfold splitMonths
      split
      · rename_i hFirst
        exact ⟨hFirst, by simp [daysBefore]⟩
      · rename_i hLater
        simp only [List.length_cons, daysBefore] at hDay
        have hRest := @ih (day - length) (by omega)
        refine ⟨hRest.1, ?_⟩
        simp only [daysBefore]
        omega

------------------------------------------------------------
-- Dates
------------------------------------------------------------

namespace Date

/- The day of the year is split into month and day. -/
theorem ofDay_contains (day : Int) :
    (ofDay day).day - 1 <
        monthLength (ofDay day).year (ofDay day).month ∧
      (daysBefore (monthLengths (isLeap (ofDay day).year))
          ((ofDay day).month - 1) +
        ((ofDay day).day - 1) : Nat) =
          day - yearStart (ofDay day).year := by
  have hYear := yearOfDay_contains day
  rw [yearStart_succ] at hYear
  have hInYear :
      (day - yearStart (yearOfDay day)).toNat <
        daysBefore (monthLengths (isLeap (yearOfDay day)))
          12 := by
    omega
  have hSplit :=
    @splitMonths_contains
      (monthLengths (isLeap (yearOfDay day))) _ hInYear
  refine ⟨hSplit.1, ?_⟩
  have hSum := congrArg Int.ofNat hSplit.2
  exact hSum.trans (Int.toNat_of_nonneg (by omega))

/- The date of a day number exists. -/
theorem isValid_ofDay (day : Int) :
    (ofDay day).IsValid := by
  have hMonth : 1 ≤ (ofDay day).month := Nat.le_add_left _ _
  have hDay : 1 ≤ (ofDay day).day := Nat.le_add_left _ _
  have hLength := (ofDay_contains day).1
  exact ⟨hMonth, hDay, by omega⟩

/- A day number is found again from its date. -/
theorem toDay_ofDay (day : Int) :
    (ofDay day).toDay = day := by
  have hSum := (ofDay_contains day).2
  unfold toDay
  omega

/- Months and days of existing dates have two digits. -/
theorem IsValid.bounds
    {d : Date}
    (hValid : d.IsValid) :
    d.month ≤ 12 ∧ d.day ≤ 31 := by
  rcases hValid with ⟨_, hDay, hLength⟩
  unfold monthLength at hLength
  cases hMonth :
      (monthLengths (isLeap d.year))[d.month - 1]? with
  | none =>
      rw [hMonth, Option.getD_none] at hLength
      omega
  | some length =>
      have hLengths :
          ∀ leap, ∀ n ∈ monthLengths leap, n ≤ 31 := by
        decide
      have hExists :=
        (List.getElem?_eq_some_iff.mp hMonth).1
      have hTwelve :
          (monthLengths (isLeap d.year)).length = 12 := rfl
      have hLong :=
        hLengths _ _ (List.mem_of_getElem? hMonth)
      rw [hMonth, Option.getD_some] at hLength
      omega

end Date

end Calendar

end Statechart
