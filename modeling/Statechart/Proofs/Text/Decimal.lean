import Mathlib.Algebra.Group.Nat.Defs
import Statechart.Proofs.Text.Pieces
import Statechart.Text.Decimal

/-
  This file states that written numbers are read back.

  Key definitions include:
    * `Text.AllDigits`
    * `Text.NoDigitFirst`

  Key theorems include:
    * `Text.decimalValue_padded`
    * `Text.decimal_head`
    * `Text.spanDigits_append`
    * `Text.number?_padded`
-/

namespace Statechart

namespace Text

------------------------------------------------------------
-- Digits
------------------------------------------------------------

/- Every character of the text is a decimal digit. -/
def AllDigits (text : List Char) : Prop :=
  ∀ c ∈ text, c.isDigit = true

/- The text does not begin with a decimal digit. -/
def NoDigitFirst (text : List Char) : Prop :=
  ∀ c ∈ text.head?, c.isDigit = false

theorem noDigitFirst_cons
    {c : Char}
    (hOther : c.isDigit = false)
    (rest : List Char) :
    NoDigitFirst (c :: rest) := by
  intro d hFirst
  rw [← Option.some.inj hFirst]
  exact hOther

/- The code points of the ten digits. -/
theorem toNat_of_isDigit
    {c : Char}
    (hDigit : c.isDigit = true) :
    48 ≤ c.toNat ∧ c.toNat ≤ 57 := by
  simp only [Char.isDigit, Bool.and_eq_true,
    decide_eq_true_eq] at hDigit
  exact hDigit

theorem AllDigits.solid
    {text : List Char}
    (hDigits : AllDigits text) :
    Solid text := by
  intro c hMember
  have hBounds := toNat_of_isDigit (hDigits c hMember)
  simp only [isBlank, inRanges, blankRanges, List.any_cons,
    List.any_nil, Bool.or_eq_false_iff,
    Bool.and_eq_false_iff, decide_eq_false_iff_not, and_true]
  omega

theorem AllDigits.exists_first
    {text : List Char}
    (hDigits : AllDigits text)
    (hNonempty : text ≠ []) :
    ∃ c rest, text = c :: rest ∧ c.isDigit = true := by
  cases text with
  | nil => exact absurd rfl hNonempty
  | cons c rest =>
      exact ⟨c, rest, rfl, hDigits c List.mem_cons_self⟩

------------------------------------------------------------
-- Writing
------------------------------------------------------------

theorem decimal_ne_nil (n : Nat) : decimal n ≠ [] :=
  Nat.toDigits_ne_nil

theorem allDigits_decimal (n : Nat) :
    AllDigits (decimal n) := by
  intro c hMember
  exact
    Nat.isDigit_of_mem_toDigits (by omega) (by omega) hMember

theorem decimalValue_decimal (n : Nat) :
    decimalValue (decimal n) = n :=
  Nat.ofDigitChars_toDigits (by omega) (by omega)

/- Only the number zero is written with a zero first. -/
theorem decimal_head
    {n : Nat}
    (hPositive : 0 < n) :
    (decimal n).head? ≠ some '0' := by
  induction n using Nat.strongRecOn with
  | ind n ih =>
      unfold decimal at ih ⊢
      rw [Nat.toDigits_eq_if (by omega)]
      split
      · rename_i hSmall
        have hDigits :
            ∀ k < 10, 0 < k → Nat.digitChar k ≠ '0' := by
          decide
        simpa using hDigits n hSmall hPositive
      · have hShorter := ih (n / 10) (by omega) (by omega)
        cases hDigits : Nat.toDigits 10 (n / 10) with
        | nil => exact absurd hDigits Nat.toDigits_ne_nil
        | cons c rest =>
            rw [hDigits] at hShorter
            exact hShorter

theorem allDigits_padded (width n : Nat) :
    AllDigits (padded width n) := by
  intro c hMember
  rcases List.mem_append.mp hMember with hZero | hDigit
  · rw [(List.mem_replicate.mp hZero).2]
    rfl
  · exact allDigits_decimal n c hDigit

theorem padded_ne_nil (width n : Nat) :
    padded width n ≠ [] :=
  List.append_ne_nil_of_right_ne_nil _ (decimal_ne_nil n)

/- Leading zeros do not change the number. -/
theorem decimalValue_padded (width n : Nat) :
    decimalValue (padded width n) = n := by
  unfold decimalValue padded
  rw [Nat.ofDigitChars_append, Nat.ofDigitChars_replicate_zero,
    Nat.mul_zero]
  exact decimalValue_decimal n

theorem length_padded
    {width n : Nat}
    (hWidth : 0 < width)
    (hBound : n < 10 ^ width) :
    (padded width n).length = width := by
  have hLength : (decimal n).length ≤ width :=
    (Nat.length_toDigits_le_iff (by omega) hWidth).mpr hBound
  rw [padded, List.length_append, List.length_replicate]
  omega

------------------------------------------------------------
-- Reading
------------------------------------------------------------

theorem spanDigits_append
    {digits rest : List Char}
    (hDigits : AllDigits digits)
    (hRest : NoDigitFirst rest) :
    spanDigits (digits ++ rest) = (digits, rest) := by
  induction digits with
  | nil =>
      cases rest with
      | nil => rfl
      | cons c rest =>
          have hFirst := hRest c rfl
          simp [spanDigits, hFirst]
  | cons c digits ih =>
      have hFirst := hDigits c List.mem_cons_self
      have hLater := ih fun d hMember =>
        hDigits d (List.mem_cons_of_mem c hMember)
      simp [spanDigits, hFirst, hLater]

/- Digits are counted, so more of them may follow. -/
theorem spanDigitsUpTo_append
    {digits : List Char}
    (hDigits : AllDigits digits)
    (rest : List Char) :
    spanDigitsUpTo digits.length (digits ++ rest) =
      (digits, rest) := by
  induction digits with
  | nil => rfl
  | cons c digits ih =>
      have hFirst := hDigits c List.mem_cons_self
      have hLater := ih fun d hMember =>
        hDigits d (List.mem_cons_of_mem c hMember)
      simp [spanDigitsUpTo, hFirst, hLater]

theorem digitsValue?_padded (width n : Nat) :
    digitsValue? (padded width n) = some n := by
  simp [digitsValue?, padded_ne_nil, decimalValue_padded]

/- A number that fits into its width is read back. -/
theorem number?_padded
    {width n : Nat}
    (hWidth : 0 < width)
    (hBound : n < 10 ^ width)
    (rest : List Char) :
    number? width (padded width n ++ rest) =
      some (n, rest) := by
  have hSpan :=
    spanDigitsUpTo_append (allDigits_padded width n) rest
  rw [length_padded hWidth hBound] at hSpan
  simp only [number?, hSpan, digitsValue?_padded]

end Text

end Statechart
