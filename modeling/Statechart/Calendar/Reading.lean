import Statechart.Calendar.Timestamp
import Statechart.Text.Pieces

/-
  This file defines how timestamps are read. A timestamp is a
  date, a separator, a time of day and an offset from UTC:

    YEAR-MONTH-DAY T HOUR:MINUTE:SECOND[.FRACTION] OFFSET

  Numbers may have fewer digits than they are written with,
  and blanks may stand before a number, before a separator
  and before the offset. A year with a sign may have any
  number of digits. Digits of a fraction after the ninth are
  dropped. Second 60 stands for a leap second. The offset is
  `Z`, `UTC`, or a sign with hours and minutes.

  Key definitions include:
    * `Timestamp.date?`
    * `Timestamp.clock?`
    * `Timestamp.offset?`
    * `Timestamp.ofChars?`
    * `Timestamp.parse?`
-/

namespace Statechart

open Calendar

namespace Timestamp

------------------------------------------------------------
-- Pieces
------------------------------------------------------------

/- Read a number after blanks. -/
def numberAfterBlanks?
    (max : Nat)
    (text : List Char) : Option (Nat × List Char) :=
  Text.number? max (Text.trimStart text)

/- Expect a character after blanks. -/
def markAfterBlanks?
    (mark : Char)
    (text : List Char) : Option (List Char) :=
  match Text.trimStart text with
  | [] => none
  | c :: rest => if c = mark then some rest else none

/- A number of any number of digits. -/
def longNumber?
    (text : List Char) : Option (Nat × List Char) :=
  match Text.spanDigits text with
  | (digits, rest) =>
      match Text.digitsValue? digits with
      | none => none
      | some n => some (n, rest)

------------------------------------------------------------
-- Dates
------------------------------------------------------------

/- Read a year. Without a sign it has at most four digits. -/
def year?
    (text : List Char) : Option (Int × List Char) :=
  match Text.trimStart text with
  | '-' :: rest =>
      match longNumber? rest with
      | none => none
      | some (n, after) => some (-(n : Int), after)
  | '+' :: rest =>
      match longNumber? rest with
      | none => none
      | some (n, after) => some ((n : Int), after)
  | start =>
      match Text.number? 4 start with
      | none => none
      | some (n, after) => some ((n : Int), after)

/- The years that dates may have. -/
def inYearRange (year : Int) : Bool :=
  -262143 ≤ year && year ≤ 262142

/- Read a date that exists. -/
def date?
    (text : List Char) : Option (Date × List Char) := do
  let (year, text) ← year? text
  let text ← markAfterBlanks? '-' text
  let (month, text) ← numberAfterBlanks? 2 text
  let text ← markAfterBlanks? '-' text
  let (day, text) ← numberAfterBlanks? 2 text
  let date : Date := ⟨year, month, day⟩
  if inYearRange year ∧ date.IsValid then
    some (date, text)
  else
    none

------------------------------------------------------------
-- Times of Day
------------------------------------------------------------

/- Read the separator between date and time of day. -/
def separator?
    (text : List Char) : Option (List Char) :=
  match text with
  | c :: rest =>
      if c = 'T' ∨ c = 't' ∨ c = ' ' then
        some rest
      else
        none
  | [] => none

/-
  The nanoseconds of the digits of a fraction, of which nine
  count.
-/
def fractionValue (digits : List Char) : Nat :=
  let counted := digits.take 9
  Text.decimalValue counted *
    Nat.pow 10 (9 - counted.length)

/- Read a fraction, which may be missing. -/
def fraction?
    (text : List Char) : Option (Nat × List Char) :=
  match text with
  | '.' :: rest =>
      match Text.spanDigits rest with
      | ([], _) => none
      | (digits, after) =>
          some (fractionValue digits, after)
  | _ => some (0, text)

/-
  Read a time of day as a second of the day and nanoseconds.
  A second 60 becomes a leap second after second 59.
-/
def clock?
    (text : List Char) :
    Option (Nat × Nat × List Char) := do
  let (hour, text) ← numberAfterBlanks? 2 text
  let text ← markAfterBlanks? ':' text
  let (minute, text) ← numberAfterBlanks? 2 text
  let text ← markAfterBlanks? ':' text
  let (second, text) ← numberAfterBlanks? 2 text
  let (nanos, text) ← fraction? text
  if hour < 24 ∧ minute < 60 ∧ second ≤ 60 then
    let start := hour * 3600 + minute * 60
    if second = 60 then
      some (start + 59, nanos + nanosPerSecond, text)
    else
      some (start + second, nanos, text)
  else
    none

------------------------------------------------------------
-- Offsets
------------------------------------------------------------

/- The sign at the start of an offset. -/
def sign? : List Char → Option (Int × List Char)
  | c :: rest =>
      if c = '+' then
        some (1, rest)
      else if c = '-' ∨ c = '\u2212' then
        some (-1, rest)
      else
        none
  | [] => none

/- Exactly two digits. -/
def twoDigits? : List Char → Option (Nat × List Char)
  | c :: d :: rest =>
      if c.isDigit ∧ d.isDigit then
        some (Text.decimalValue [c, d], rest)
      else
        none
  | _ => none

/- Drop the colons and blanks at the start of a text. -/
def dropColons : List Char → List Char
  | [] => []
  | c :: rest =>
      if c = ':' ∨ Text.isBlank c then
        dropColons rest
      else
        c :: rest

/- Is a text `UTC` in letters of either case? -/
def isUtc (letters : List Char) : Bool :=
  letters.map Char.toUpper == ['U', 'T', 'C']

/- Read a signed offset in seconds, less than a day. -/
def signedOffset?
    (text : List Char) : Option (Int × List Char) := do
  let (sign, text) ← sign? text
  let (hours, text) ← twoDigits? text
  let (minutes, text) ← twoDigits? (dropColons text)
  if minutes < 60 ∧ hours < 24 then
    some (sign * (hours * 3600 + minutes * 60 : Nat), text)
  else
    none

/- Read an offset from UTC in seconds. -/
def offset?
    (text : List Char) : Option (Int × List Char) :=
  if isUtc (text.take 3) then
    some (0, text.drop 3)
  else
    match text with
    | 'Z' :: rest => some (0, rest)
    | 'z' :: rest => some (0, rest)
    | _ => signedOffset? text

------------------------------------------------------------
-- Timestamps
------------------------------------------------------------

/- Read a timestamp and nothing after it but blanks. -/
def ofChars? (text : List Char) : Option Timestamp := do
  let (date, text) ← date? text
  let text ← separator? text
  let (second, nanos, text) ← clock? text
  let (offset, text) ← offset? (Text.trimStart text)
  if (Text.trimStart text).isEmpty then
    some ⟨date.toDay * 86400 + second - offset, nanos⟩
  else
    none

/-
  Read a timestamp. This stands for the reader of a calendar
  library. Assumed of it is that dates are those of the
  Gregorian calendar, also before it was introduced, and that
  the form in which timestamps are written is read as the
  moment that it was written for, to the nanosecond. The
  other forms that it accepts are not written by anyone here.
-/
def parse? (text : String) : Option Timestamp :=
  ofChars? text.toList

end Timestamp

end Statechart
