import Statechart.Calendar.Reading
import Statechart.Proofs.Calendar.Date
import Statechart.Proofs.Text.Decimal

/-
  This file states that written timestamps are read back, to
  the nanosecond and in all years that dates may have.

  Key definitions include:
    * `Timestamp.IsRegular`

  Key theorems include:
    * `Timestamp.year?_yearText`
    * `Timestamp.date?_dateText`
    * `Timestamp.fraction?_fractionText`
    * `Timestamp.clock?_timeText`
    * `Timestamp.parse?_text`
-/

namespace Statechart

open Calendar

namespace Timestamp

------------------------------------------------------------
-- Pieces
------------------------------------------------------------

theorem numberAfterBlanks?_padded
    {width n : Nat}
    (hWidth : 0 < width)
    (hBound : n < 10 ^ width)
    (rest : List Char) :
    numberAfterBlanks? width (Text.padded width n ++ rest) =
      some (n, rest) := by
  unfold numberAfterBlanks?
  rw [Text.trimStart_of_solid
    (Text.allDigits_padded width n).solid
    (Text.padded_ne_nil width n)]
  exact Text.number?_padded hWidth hBound rest

theorem markAfterBlanks?_cons
    {mark : Char}
    (hSolid : Text.isBlank mark = false)
    (rest : List Char) :
    markAfterBlanks? mark (mark :: rest) = some rest := by
  simp [markAfterBlanks?, Text.trimStart, hSolid]

theorem longNumber?_padded
    {rest : List Char}
    (hRest : Text.NoDigitFirst rest)
    (width n : Nat) :
    longNumber? (Text.padded width n ++ rest) =
      some (n, rest) := by
  have hSpan :=
    Text.spanDigits_append
      (Text.allDigits_padded width n) hRest
  simp only [longNumber?, hSpan, Text.digitsValue?_padded]

------------------------------------------------------------
-- Dates
------------------------------------------------------------

/-
  A year is read back. Signs tell the years that do not have
  four digits, so their digits need not be counted.
-/
theorem year?_yearText
    {rest : List Char}
    (hRest : Text.NoDigitFirst rest)
    (year : Int) :
    year? (yearText year ++ rest) = some (year, rest) := by
  have hLong :=
    longNumber?_padded hRest 4 year.natAbs
  unfold yearText
  split
  · rename_i hNegative
    have hSolid : Text.isBlank '-' = false := by decide
    have hValue : -(year.natAbs : Int) = year := by omega
    simp only [year?, Text.trimStart, List.cons_append,
      hSolid, Bool.false_eq_true, if_false, hLong, hValue]
  · split
    · rename_i hNegative hLarge
      have hSolid : Text.isBlank '+' = false := by decide
      have hValue : (year.natAbs : Int) = year := by omega
      simp only [year?, Text.trimStart, List.cons_append,
        hSolid, Bool.false_eq_true, if_false, hLong, hValue]
    · rename_i hNegative hLarge
      have hValue : (year.natAbs : Int) = year := by omega
      have hShort :=
        @Text.number?_padded 4 year.natAbs (by omega)
          (by omega) rest
      have hDigits := Text.allDigits_padded 4 year.natAbs
      have hNonempty := Text.padded_ne_nil 4 year.natAbs
      unfold year?
      rw [Text.trimStart_of_solid hDigits.solid hNonempty]
      -- A digit stands where a sign would be.
      rcases hDigits.exists_first hNonempty with
        ⟨c, digits, hPadded, hFirst⟩
      rw [hPadded] at hShort ⊢
      split
      · rename_i hSign
        cases hSign
        cases hFirst
      · rename_i hSign
        cases hSign
        cases hFirst
      · rw [hShort, ← hValue]
        rfl

/- A date that exists is read back. -/
theorem date?_dateText
    {d : Date}
    (hYear : inYearRange d.year = true)
    (hValid : d.IsValid)
    (rest : List Char) :
    date? (dateText d ++ rest) = some (d, rest) := by
  rcases hValid.bounds with ⟨hMonth, hDay⟩
  have hHyphen : Text.isBlank '-' = false := by decide
  have hReadYear :
      ∀ after,
        year? (yearText d.year ++ '-' :: after) =
          some (d.year, '-' :: after) :=
    fun after =>
      year?_yearText
        (Text.noDigitFirst_cons (by decide) after) d.year
  have hReadMonth :=
    @numberAfterBlanks?_padded 2 d.month (by omega) (by omega)
  have hReadDay :=
    @numberAfterBlanks?_padded 2 d.day (by omega) (by omega)
  simp [date?, dateText, hReadYear, hReadMonth, hReadDay,
    markAfterBlanks?_cons hHyphen, hYear, hValid]

------------------------------------------------------------
-- Times of Day
------------------------------------------------------------

/- Digits of a fraction count for what they are worth. -/
theorem fraction?_padded
    {width n : Nat}
    {rest : List Char}
    (hWidth : 0 < width)
    (hNine : width ≤ 9)
    (hBound : n < 10 ^ width)
    (hRest : Text.NoDigitFirst rest) :
    fraction? ('.' :: Text.padded width n ++ rest) =
      some (n * 10 ^ (9 - width), rest) := by
  have hLength := Text.length_padded hWidth hBound
  have hSpan :=
    Text.spanDigits_append
      (Text.allDigits_padded width n) hRest
  have hValue :
      fractionValue (Text.padded width n) =
        n * 10 ^ (9 - width) := by
    simp [fractionValue, List.take_of_length_le, hLength,
      hNine, Text.decimalValue_padded]
  simp only [fraction?, List.cons_append, hSpan]
  split
  · rename_i hNone
    exact
      absurd (congrArg Prod.fst hNone)
        (Text.padded_ne_nil width n)
  · rename_i hSome
    cases hSome
    rw [hValue]

/- A fraction is read back, whatever its width. -/
theorem fraction?_fractionText
    {nanos : Nat}
    {rest : List Char}
    (hNanos : nanos < nanosPerSecond)
    (hRest : Text.NoDigitFirst rest)
    (hPoint : rest.head? ≠ some '.') :
    fraction? (fractionText nanos ++ rest) =
      some (nanos, rest) := by
  unfold nanosPerSecond at hNanos
  unfold fractionText
  split
  · rename_i hZero
    rw [List.nil_append, hZero]
    unfold fraction?
    split
    · exact absurd rfl hPoint
    · rfl
  · split
    · rename_i hMillis
      rw [fraction?_padded (by omega) (by omega) (by omega)
        hRest]
      simp only [Option.some.injEq, Prod.mk.injEq, and_true]
      omega
    · split
      · rename_i hMicros
        rw [fraction?_padded (by omega) (by omega) (by omega)
          hRest]
        simp only [Option.some.injEq, Prod.mk.injEq, and_true]
        omega
      · rw [fraction?_padded (by omega) (by omega) (by omega)
          hRest]
        simp

/- A time of day is read back with its fraction. -/
theorem clock?_timeText
    {hour minute second nanos : Nat}
    {rest : List Char}
    (hHour : hour < 24)
    (hMinute : minute < 60)
    (hSecond : second < 60)
    (hNanos : nanos < nanosPerSecond)
    (hRest : Text.NoDigitFirst rest)
    (hPoint : rest.head? ≠ some '.') :
    clock?
        (timeText hour minute second ++
          (fractionText nanos ++ rest)) =
      some (hour * 3600 + minute * 60 + second, nanos,
        rest) := by
  have hColon : Text.isBlank ':' = false := by decide
  have hReadHour :=
    @numberAfterBlanks?_padded 2 hour (by omega) (by omega)
  have hReadMinute :=
    @numberAfterBlanks?_padded 2 minute (by omega) (by omega)
  have hReadSecond :=
    @numberAfterBlanks?_padded 2 second (by omega) (by omega)
  have hReadFraction :=
    fraction?_fractionText hNanos hRest hPoint
  have hNoLeap : second ≠ 60 := by omega
  have hSixty : second ≤ 60 := by omega
  simp [clock?, timeText, hReadHour, hReadMinute,
    hReadSecond, hReadFraction, hHour, hMinute, hSixty,
    hNoLeap, markAfterBlanks?_cons hColon]

------------------------------------------------------------
-- Timestamps
------------------------------------------------------------

/-
  The year is one that dates may have, and the nanoseconds
  are less than a second.
-/
structure IsRegular (t : Timestamp) : Prop where
  year : inYearRange (Date.ofDay t.day).year = true
  nanos : t.nanos < nanosPerSecond

/- Times in years of four digits are regular. -/
theorem IsRegular.of_year_le
    {t : Timestamp}
    (hFirst : 1 ≤ (Date.ofDay t.day).year)
    (hLast : (Date.ofDay t.day).year ≤ 9999)
    (hNanos : t.nanos < nanosPerSecond) :
    t.IsRegular where
  year := by
    simp only [inYearRange, Bool.and_eq_true,
      decide_eq_true_eq]
    omega
  nanos := hNanos

theorem ofChars?_chars
    {t : Timestamp}
    (hRegular : t.IsRegular) :
    ofChars? t.chars = some t := by
  have hNoLeap : t.inLeapSecond = false := by
    have hNanos := hRegular.nanos
    simp only [inLeapSecond, decide_eq_false_iff_not]
    omega
  have hSecond : t.secondOfDay < 86400 := by
    unfold secondOfDay
    omega
  have hReadDate :=
    date?_dateText hRegular.year
      (Date.isValid_ofDay t.day)
  have hReadClock :=
    @clock?_timeText (t.secondOfDay / 3600)
      (t.secondOfDay / 60 % 60) (t.secondOfDay % 60) t.nanos
      ['Z'] (by omega) (by omega) (by omega) hRegular.nanos
      (Text.noDigitFirst_cons (by decide) []) (by decide)
  have hReadOffset :
      offset? (Text.trimStart ['Z']) = some (0, []) := by
    decide
  have hSeconds :
      t.day * 86400 +
          (t.secondOfDay / 3600 * 3600 +
            t.secondOfDay / 60 % 60 * 60 +
            t.secondOfDay % 60 : Nat) =
        t.seconds := by
    unfold day secondOfDay
    omega
  have hEnd : (Text.trimStart []).isEmpty = true := rfl
  simp only [ofChars?, chars, hNoLeap, List.append_assoc,
    List.cons_append, Bool.false_eq_true, if_false,
    Nat.add_zero, Nat.zero_mul, Nat.sub_zero, hReadDate,
    separator?, true_or, if_true, hReadClock, hReadOffset,
    hEnd, Option.bind_eq_bind, Option.bind_some,
    Date.toDay_ofDay, hSeconds, Int.sub_zero]

/- A written timestamp is read back. -/
theorem parse?_text
    {t : Timestamp}
    (hRegular : t.IsRegular) :
    parse? t.text = some t := by
  unfold parse? text
  rw [String.toList_ofList]
  exact ofChars?_chars hRegular

end Timestamp

end Statechart
