import Statechart.Text.Decimal

/-
  This file defines how amounts of money are shown. Amounts
  are counted in cents. An amount is shown in whole units
  with two places, by way of the binary number with 53
  significant bits that is nearest to it; on every rounding a
  tie goes to the even neighbour. Amounts below ten trillion
  units show exactly the cents that were counted.

  Key definitions include:
    * `roundQuotient`
    * `nearestBinary`
    * `Amount.text`
-/

namespace Statechart

------------------------------------------------------------
-- Rounding
------------------------------------------------------------

/-
  The natural number nearest to a quotient; a tie goes to the
  even neighbour.
-/
def roundQuotient (num den : Nat) : Nat :=
  let below := num / den
  let rest := num % den
  if den < 2 * rest then
    below + 1
  else if 2 * rest = den ∧ below % 2 = 1 then
    below + 1
  else
    below

/- A fraction of natural numbers. -/
structure Fraction where
  num : Nat
  den : Nat
deriving DecidableEq, Repr

/- Multiply by a power of two. -/
def scaleUp (num : Nat) (exponent : Int) : Nat :=
  num * Nat.pow 2 exponent.toNat

/-
  The exponent of the last of 53 significant bits of a
  positive fraction.
-/
def lastBit (f : Fraction) : Int :=
  let guess : Int :=
    (Nat.log2 f.num : Int) - (Nat.log2 f.den : Int) - 52
  let num := scaleUp f.num (-guess)
  let den := scaleUp f.den guess
  if num < scaleUp den 52 then guess - 1 else guess

/-
  The fraction nearest to a given one among those with 53
  significant bits.
-/
def nearestBinary (f : Fraction) : Fraction :=
  if f.num = 0 then
    ⟨0, 1⟩
  else
    let e := lastBit f
    let significand :=
      roundQuotient (scaleUp f.num (-e)) (scaleUp f.den e)
    ⟨scaleUp significand e, scaleUp 1 (-e)⟩

------------------------------------------------------------
-- Amounts
------------------------------------------------------------

namespace Amount

/- The hundredths that are shown for a number of cents. -/
def hundredths (cents : Nat) : Nat :=
  let counted := nearestBinary ⟨cents, 1⟩
  let units :=
    nearestBinary ⟨counted.num, 100 * counted.den⟩
  roundQuotient (100 * units.num) units.den

/- The text of an amount. -/
def text (cents : Int) : String :=
  let shown := hundredths cents.natAbs
  let digits :=
    Text.decimal (shown / 100) ++
      '.' :: Text.padded 2 (shown % 100)
  (if cents < 0 then "-" else "") ++ String.ofList digits

end Amount

end Statechart
