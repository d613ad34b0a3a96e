/-
  This file defines how the kiosk stores numbers. Balances of
  cards have 64 bits with a sign, counts have 32 bits without
  one. A number that fits is stored as it is. What is stored
  for any other number is up to the arithmetic: words wrap
  around, and unbounded numbers fit all the same.

  A kiosk that checks its numbers stops for good at the first
  one that does not fit. It has no arithmetic, but until then
  it agrees with all of them.

  Key definitions include:
    * `FitsBalance`
    * `FitsCount`
    * `Arithmetic`
    * `Arithmetic.wrapping`
    * `Arithmetic.exact`
-/

namespace Statechart

/- The balances that fit. -/
def FitsBalance (n : Int) : Prop :=
  Int64.minValue.toInt ≤ n ∧ n ≤ Int64.maxValue.toInt

/- The counts that fit. -/
def FitsCount (n : Int) : Prop :=
  0 ≤ n ∧ n < UInt32.size

/- What is stored for a balance and for a count. -/
structure Arithmetic where
  balance : Int → Int
  count : Int → Nat
  balance_eq :
    ∀ {n : Int}, FitsBalance n → balance n = n
  count_eq :
    ∀ {n : Int}, FitsCount n → (count n : Int) = n

namespace Arithmetic

/- Machine words, which wrap around. -/
def wrapping : Arithmetic where
  balance n := (Int64.ofInt n).toInt
  count n := (UInt32.ofInt n).toNat
  balance_eq := by
    intro n hFits
    have hLow :
        Int64.minValue.toInt = -9223372036854775808 :=
      rfl
    have hHigh :
        Int64.maxValue.toInt = 9223372036854775807 :=
      rfl
    unfold FitsBalance at hFits
    exact Int64.toInt_ofInt_of_le (by omega) (by omega)
  count_eq := by
    intro n hFits
    have hSize : UInt32.size = 4294967296 := rfl
    unfold FitsCount at hFits
    unfold UInt32.ofInt
    rw [UInt32.toNat_ofNat']
    omega

/- Integers and natural numbers. -/
def exact : Arithmetic where
  balance n := n
  count n := n.toNat
  balance_eq _ := rfl
  count_eq hFits := Int.toNat_of_nonneg hFits.1

end Arithmetic

end Statechart
