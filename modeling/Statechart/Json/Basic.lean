import Statechart.Text.Decimal

/-
  This file defines JSON values, their text contents and
  their numbers.

  The content of a JSON string is a list of code units. An
  escape `\uXXXX` gives one code unit; a pair of surrogates
  stands for one character beyond the basic plane, and a
  surrogate that stands alone makes the string no text.

  Key definitions include:
    * `Json`
    * `Json.Numeral`
    * `Json.ofText`
    * `Json.ofNat`
    * `Json.combineUnits?`
-/

namespace Statechart

namespace Json

------------------------------------------------------------
-- Numbers
------------------------------------------------------------

/-
  A number as it is written: a sign, the digits before the
  point, and whatever follows them.
-/
structure Numeral where
  negative : Bool
  digits : List Char
  tail : List Char
deriving DecidableEq, Repr

namespace Numeral

/- The numeral of a natural number. -/
def ofNat (n : Nat) : Numeral where
  negative := false
  digits := Text.decimal n
  tail := []

/-
  The natural number that a numeral without sign, fraction
  and exponent denotes.
-/
def natural? (n : Numeral) : Option Nat :=
  if n.negative || !n.tail.isEmpty then
    none
  else
    some (Text.decimalValue n.digits)

end Numeral

------------------------------------------------------------
-- Code Units
------------------------------------------------------------

/- Is a code unit the first half of a pair? -/
def isLeadingUnit (unit : Nat) : Bool :=
  0xD800 ≤ unit && unit ≤ 0xDBFF

/- Is a code unit the second half of a pair? -/
def isTrailingUnit (unit : Nat) : Bool :=
  0xDC00 ≤ unit && unit ≤ 0xDFFF

/- The code point of a pair of surrogates. -/
def pairValue (leading trailing : Nat) : Nat :=
  0x10000 + (leading - 0xD800) * 0x400 +
    (trailing - 0xDC00)

/-
  The characters of a list of code units, unless a surrogate
  stands alone.
-/
def combineUnits? : List Nat → Option (List Char)
  | [] => some []
  | [unit] =>
      if isLeadingUnit unit || isTrailingUnit unit then
        none
      else
        some [Char.ofNat unit]
  | unit :: next :: rest =>
      if isLeadingUnit unit then
        if isTrailingUnit next then
          (combineUnits? rest).map
            (Char.ofNat (pairValue unit next) :: ·)
        else
          none
      else if isTrailingUnit unit then
        none
      else
        (combineUnits? (next :: rest)).map
          (Char.ofNat unit :: ·)

/- The text of a list of code units, if it is one. -/
def unitsText? (units : List Nat) : Option String :=
  (combineUnits? units).map String.ofList

end Json

------------------------------------------------------------
-- Values
------------------------------------------------------------

/-
  A JSON value. Strings without a text, because a surrogate
  stands alone in them, have no content. Fields of an object
  keep their order and may repeat.
-/
inductive Json where
  | null
  | bool (value : Bool)
  | number (value : Json.Numeral)
  | string (content : Option String)
  | list (items : List Json)
  | object (fields : List (Option String × Json))

namespace Json

/- A string with the given text. -/
def ofText (content : String) : Json :=
  .string (some content)

/- A natural number. -/
def ofNat (n : Nat) : Json :=
  .number (.ofNat n)

/- A value or null. -/
def ofOption
    {α : Type}
    (toJson : α → Json) :
    Option α → Json
  | none => .null
  | some value => toJson value

/- An object with the given fields. -/
def ofFields (fields : List (String × Json)) : Json :=
  .object (fields.map fun f => (some f.1, f.2))

end Json

end Statechart
