/-
  This file states that texts are ordered like their bytes
  in UTF-8: the first character in which two texts differ
  decides their order, and so does the first byte in which
  their encodings differ.

  Key definitions include:
    * `Text.bytes`
    * `Text.Diverge`

  Key theorems include:
    * `Text.diverge_of_lt`
    * `Text.bytes_lt_iff`
-/

namespace Statechart

namespace Text

/- The bytes of a text in UTF-8. -/
def bytes (text : String) : List UInt8 :=
  text.toUTF8.data.toList

/-
  Two lists of bytes diverge if the first byte in which they
  differ is less in the first of them, and neither of them
  ends before.
-/
inductive Diverge : List UInt8 → List UInt8 → Prop where
  | here
      {m n : Nat}
      (left right : List UInt8)
      (hBound : n < 256)
      (hLess : m < n) :
      Diverge (.ofNat m :: left) (.ofNat n :: right)
  | later
      {m n : Nat}
      {left right : List UInt8}
      (hSame : m = n)
      (hLater : Diverge left right) :
      Diverge (.ofNat m :: left) (.ofNat n :: right)

/- What follows does not matter once two lists diverge. -/
theorem Diverge.append_lt
    {left right : List UInt8}
    (hDiverge : Diverge left right)
    (after after' : List UInt8) :
    left ++ after < right ++ after' := by
  induction hDiverge with
  | @here m n left right hBound hLess =>
      rw [List.cons_append, List.cons_append,
        List.cons_lt_cons_iff]
      left
      rw [UInt8.lt_iff_toNat_lt,
        UInt8.toNat_ofNat_of_lt' (Nat.lt_trans hLess hBound),
        UInt8.toNat_ofNat_of_lt' hBound]
      exact hLess
  | later hSame _ ih =>
      rw [List.cons_append, List.cons_append,
        List.cons_lt_cons_iff, hSame]
      exact Or.inr ⟨rfl, ih⟩

/- A digit decides unless it is the same in both lists. -/
theorem Diverge.digit
    {m n : Nat}
    {left right : List UInt8}
    (hBound : n < 256)
    (hLe : m ≤ n)
    (hLater : m = n → Diverge left right) :
    Diverge (.ofNat m :: left) (.ofNat n :: right) := by
  rcases Nat.lt_or_eq_of_le hLe with hLess | hSame
  · exact .here _ _ hBound hLess
  · exact .later hSame (hLater hSame)

/-
  The encodings of two characters diverge. The first byte
  tells how many bytes there are, and more bytes are used
  for greater code points; among encodings of one length the
  bytes are digits.
-/
theorem diverge_of_lt
    {c d : Char}
    (hLess : c < d) :
    Diverge (String.utf8EncodeChar c)
      (String.utf8EncodeChar d) := by
  have hCodes : c.val.toNat < d.val.toNat := hLess
  have hRange : d.val.toNat < 0x110000 := by
    rcases d.valid with h | ⟨_, h⟩
    · exact Nat.lt_trans h (by decide)
    · exact h
  unfold String.utf8EncodeChar
  generalize c.val.toNat = m at hCodes
  generalize d.val.toNat = n at hCodes hRange
  dsimp only
  -- Cases by the length of the lesser encoding, then of the
  -- greater one, which is not shorter.
  split
  · split
    · exact .here _ _ (by omega) (by omega)
    · split
      · exact .here _ _ (by omega) (by omega)
      · split <;> exact .here _ _ (by omega) (by omega)
  · rw [if_neg (by omega : ¬n ≤ 127)]
    split
    · split
      · exact
          .digit (by omega) (by omega) fun _ =>
            .here _ _ (by omega) (by omega)
      · split <;> exact .here _ _ (by omega) (by omega)
    · rw [if_neg (by omega : ¬n ≤ 2047)]
      split
      · split
        · exact
            .digit (by omega) (by omega) fun _ =>
              .digit (by omega) (by omega) fun _ =>
                .here _ _ (by omega) (by omega)
        · exact .here _ _ (by omega) (by omega)
      · rw [if_neg (by omega : ¬n ≤ 65535)]
        exact
          .digit (by omega) (by omega) fun _ =>
            .digit (by omega) (by omega) fun _ =>
              .digit (by omega) (by omega) fun _ =>
                .here _ _ (by omega) (by omega)

theorem utf8EncodeChar_ne_nil
    (c : Char) :
    String.utf8EncodeChar c ≠ [] := by
  unfold String.utf8EncodeChar
  dsimp only
  repeat' split
  all_goals exact List.cons_ne_nil _ _

/- Encoding characters keeps their order. -/
theorem encode_lt_of_lt
    {left right : List Char}
    (hLess : left < right) :
    left.flatMap String.utf8EncodeChar <
      right.flatMap String.utf8EncodeChar := by
  induction left generalizing right with
  | nil =>
      cases right with
      | nil => exact absurd hLess (List.lt_irrefl [])
      | cons d right =>
          rw [List.flatMap_cons, List.flatMap_nil]
          cases hBytes : String.utf8EncodeChar d with
          | nil => exact absurd hBytes (utf8EncodeChar_ne_nil d)
          | cons byte bytes => exact List.nil_lt_cons _ _
  | cons c left ih =>
      cases right with
      | nil => exact absurd hLess (List.not_lt_nil _)
      | cons d right =>
          rw [List.flatMap_cons, List.flatMap_cons]
          rcases List.cons_lt_cons_iff.mp hLess with
            hFirst | ⟨rfl, hRest⟩
          · exact (diverge_of_lt hFirst).append_lt _ _
          · exact List.append_left_lt (ih hRest)

theorem bytes_eq
    (text : String) :
    bytes text =
      text.toList.flatMap String.utf8EncodeChar := by
  have hBytes := (String.utf8Encode_toList (b := text)).symm
  unfold bytes
  rw [String.toUTF8_eq_toByteArray, hBytes, List.utf8Encode,
    List.data_toByteArray]

/- Texts are ordered like their bytes. -/
theorem bytes_lt_iff
    {left right : String} :
    bytes left < bytes right ↔ left < right := by
  rw [bytes_eq, bytes_eq]
  constructor
  · intro hBytes
    by_cases hLess : left < right
    · exact hLess
    · have hLe : right ≤ left := String.not_lt.mp hLess
      by_cases hGreater : right < left
      · exact
          absurd (encode_lt_of_lt hGreater)
            (List.lt_asymm hBytes)
      · have hSame : left = right :=
          String.le_antisymm (String.not_lt.mp hGreater) hLe
        rw [hSame] at hBytes
        exact absurd hBytes (List.lt_irrefl _)
  · exact encode_lt_of_lt

end Text

end Statechart
