/-
  This file defines how natural numbers are written with
  decimal digits and read back.

  Key definitions include:
    * `decimal`
    * `padded`
    * `decimalValue`
    * `spanDigits`
    * `number?`
-/

namespace Statechart

namespace Text

------------------------------------------------------------
-- Writing
------------------------------------------------------------

/- The decimal digits of a number, without leading zeros. -/
def decimal (n : Nat) : List Char :=
  Nat.toDigits 10 n

/- The digits of a number with zeros up to a width. -/
def padded (width n : Nat) : List Char :=
  let digits := decimal n
  List.replicate (width - digits.length) '0' ++ digits

------------------------------------------------------------
-- Reading
------------------------------------------------------------

/- The number that decimal digits denote. -/
def decimalValue (digits : List Char) : Nat :=
  Nat.ofDigitChars 10 digits 0

/- Split off the ASCII digits at the start of a text. -/
def spanDigits : List Char → List Char × List Char
  | [] => ([], [])
  | c :: rest =>
      if c.isDigit then
        (c :: (spanDigits rest).1, (spanDigits rest).2)
      else
        ([], c :: rest)

/- Split off at most so many digits. -/
def spanDigitsUpTo :
    Nat → List Char → List Char × List Char
  | 0, text => ([], text)
  | _ + 1, [] => ([], [])
  | n + 1, c :: rest =>
      if c.isDigit then
        (c :: (spanDigitsUpTo n rest).1,
          (spanDigitsUpTo n rest).2)
      else
        ([], c :: rest)

/- The number that a non-empty list of digits denotes. -/
def digitsValue?
    (digits : List Char) : Option Nat :=
  if digits.isEmpty then
    none
  else
    some (decimalValue digits)

/- Read a number of at least one and at most `max` digits. -/
def number?
    (max : Nat)
    (text : List Char) : Option (Nat × List Char) :=
  let (digits, rest) := spanDigitsUpTo max text
  match digitsValue? digits with
  | none => none
  | some n => some (n, rest)

end Text

end Statechart
