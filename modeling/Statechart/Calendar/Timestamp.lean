import Statechart.Calendar.Date
import Statechart.Text.Decimal

/-
  This file defines timestamps: points in time, counted in
  seconds from the start of 1970 in UTC, with a nanosecond
  part. A nanosecond part of a whole second or more stands
  for a leap second after the counted one.

  A timestamp is written as date and time of day in UTC, with
  the shortest exact fraction of 0, 3, 6 or 9 digits.

  Key definitions include:
    * `Timestamp`
    * `Timestamp.elapsed`
    * `Timestamp.text`
-/

namespace Statechart

open Calendar

/- A point in time. -/
structure Timestamp where
  seconds : Int
  nanos : Nat
deriving DecidableEq, Repr

instance : Inhabited Timestamp :=
  ⟨⟨0, 0⟩⟩

namespace Timestamp

------------------------------------------------------------
-- Parts
------------------------------------------------------------

/- The number of nanoseconds in a second. -/
def nanosPerSecond : Nat :=
  1000000000

/- The day that contains a timestamp. -/
def day (t : Timestamp) : Int :=
  t.seconds / 86400

/- The second of the day. -/
def secondOfDay (t : Timestamp) : Nat :=
  (t.seconds % 86400).toNat

/- Does a timestamp lie in a leap second? -/
def inLeapSecond (t : Timestamp) : Bool :=
  nanosPerSecond ≤ t.nanos

------------------------------------------------------------
-- Durations
------------------------------------------------------------

/-
  The leap second that lies between two timestamps and that
  their counts of seconds do not show, if any.
-/
def leapBetween
    (first last : Timestamp) : Int :=
  if first.secondOfDay < last.secondOfDay &&
      first.inLeapSecond then
    1
  else if last.secondOfDay < first.secondOfDay &&
      last.inLeapSecond then
    -1
  else
    0

/-
  The time from one timestamp to another in nanoseconds, or
  zero if the other one is earlier.
-/
def elapsed
    (first last : Timestamp) : Nat :=
  let seconds :=
    last.seconds - first.seconds + leapBetween first last
  (seconds * (nanosPerSecond : Int) +
    ((last.nanos : Int) - (first.nanos : Int))).toNat

------------------------------------------------------------
-- Writing
------------------------------------------------------------

/- A year, signed unless it has four digits. -/
def yearText (year : Int) : List Char :=
  if year < 0 then
    '-' :: Text.padded 4 year.natAbs
  else if 9999 < year then
    '+' :: Text.padded 4 year.natAbs
  else
    Text.padded 4 year.natAbs

/- A date. -/
def dateText (d : Date) : List Char :=
  yearText d.year ++
    '-' :: Text.padded 2 d.month ++
    '-' :: Text.padded 2 d.day

/- A time of day. -/
def timeText (hour minute second : Nat) : List Char :=
  Text.padded 2 hour ++
    ':' :: Text.padded 2 minute ++
    ':' :: Text.padded 2 second

/- The shortest exact fraction of 0, 3, 6 or 9 digits. -/
def fractionText (nanos : Nat) : List Char :=
  if nanos = 0 then
    []
  else if nanos % 1000000 = 0 then
    '.' :: Text.padded 3 (nanos / 1000000)
  else if nanos % 1000 = 0 then
    '.' :: Text.padded 6 (nanos / 1000)
  else
    '.' :: Text.padded 9 nanos

/- The characters of a timestamp. -/
def chars (t : Timestamp) : List Char :=
  let clock := t.secondOfDay
  let leap := if t.inLeapSecond then 1 else 0
  dateText (.ofDay t.day) ++
    'T' :: timeText (clock / 3600) (clock / 60 % 60)
      (clock % 60 + leap) ++
    fractionText (t.nanos - leap * nanosPerSecond) ++
    ['Z']

/- The text of a timestamp. -/
def text (t : Timestamp) : String :=
  String.ofList t.chars

end Timestamp

end Statechart
