import Statechart.Proofs.Text.Pieces
import Statechart.Rule.Basic

/-
  This file states that rules are read back, whatever blanks
  stand where blanks may stand. The usual way to write a
  rule is one such layout.

  Key definitions include:
    * `Rule.Textual`

  Key theorems include:
    * `Rule.ofChars?_layout`
    * `Rule.parse?_text`
-/

namespace Statechart

------------------------------------------------------------
-- Identifiers
------------------------------------------------------------

theorem isIdentifier_iff
    {name : List Char} :
    isIdentifier name = true ↔
      name ≠ [] ∧ ∀ c ∈ name, isIdentChar c = true := by
  simp [isIdentifier]

/- Identifier characters are printable ASCII characters. -/
theorem isIdentChar_bounds
    {c : Char}
    (hIdent : isIdentChar c = true) :
    32 < c.toNat ∧ c.toNat < 127 := by
  have hRanges :
      (((decide (c.val ≥ 'A'.val ∧ c.val ≤ 'Z'.val) ||
            (decide (c.val ≥ 'a'.val) &&
              decide (c.val ≤ 'z'.val))) ||
          (decide (c.val ≥ '0'.val) &&
            decide (c.val ≤ '9'.val))) ||
        c == '_' || c == '.' || c == '-') = true :=
    hIdent
  simp only [Bool.or_eq_true, Bool.and_eq_true, beq_iff_eq,
    decide_eq_true_eq, ge_iff_le, UInt32.le_iff_toNat_le]
    at hRanges
  have hNat : c.toNat = c.val.toNat := rfl
  rcases hRanges with
    ((((hUpper | hLower) | hDigit) | rfl) | rfl) | rfl
  · simp at hUpper
    omega
  · simp at hLower
    omega
  · simp at hDigit
    omega
  · decide
  · decide
  · decide

theorem isBlank_of_isIdentChar
    {c : Char}
    (hIdent : isIdentChar c = true) :
    Text.isBlank c = false := by
  have hBounds := isIdentChar_bounds hIdent
  simp [Text.isBlank, Text.inRanges, Text.blankRanges]
  omega

theorem solid_of_isIdentifier
    {name : List Char}
    (hName : isIdentifier name = true) :
    Text.Solid name := by
  intro c hMember
  exact
    isBlank_of_isIdentChar
      ((isIdentifier_iff.mp hName).2 c hMember)

/- Marks do not occur in identifiers. -/
theorem not_mem_of_isIdentifier
    {mark : Char}
    (hMark : isIdentChar mark = false)
    {name : List Char}
    (hName : isIdentifier name = true) :
    mark ∉ name := by
  intro hMember
  have hIdent := (isIdentifier_iff.mp hName).2 mark hMember
  rw [hMark] at hIdent
  cases hIdent

theorem Text.Blank.not_mem
    {mark : Char}
    (hMark : Text.isBlank mark = false)
    {text : List Char}
    (hBlank : Text.Blank text) :
    mark ∉ text := by
  intro hMember
  have hTrue := hBlank mark hMember
  rw [hMark] at hTrue
  cases hTrue

/- Nor do they occur in identifiers padded with blanks. -/
theorem not_mem_padded
    {mark : Char}
    (hIdent : isIdentChar mark = false)
    (hBlank : Text.isBlank mark = false)
    {before name after : List Char}
    (hBefore : Text.Blank before)
    (hName : isIdentifier name = true)
    (hAfter : Text.Blank after) :
    mark ∉ before ++ name ++ after := by
  have hNotBefore := hBefore.not_mem hBlank
  have hNotName := not_mem_of_isIdentifier hIdent hName
  have hNotAfter := hAfter.not_mem hBlank
  simp [hNotBefore, hNotName, hNotAfter]

------------------------------------------------------------
-- Layouts
------------------------------------------------------------

namespace Rule

theorem name?_of_isIdentifier
    {name : List Char}
    (hName : isIdentifier name = true) :
    name? name = some (String.ofList name) := by
  unfold name?
  rw [if_pos hName]

/- A padded identifier is read as a name. -/
theorem name?_trim
    {before name after : List Char}
    (hBefore : Text.Blank before)
    (hName : isIdentifier name = true)
    (hAfter : Text.Blank after) :
    name? (Text.trim (before ++ name ++ after)) =
      some (String.ofList name) := by
  have hNonempty := (isIdentifier_iff.mp hName).1
  rw [Text.trim_padded hBefore
      (solid_of_isIdentifier hName) hNonempty hAfter,
    name?_of_isIdentifier hName]

theorem beforeArrow?_append
    (before : List Char) :
    beforeArrow? (before ++ ['-']) = some before := by
  simp [beforeArrow?]

/-
  Blanks may stand before and after the arrow, before the
  parentheses and on their inner sides.
-/
theorem ofChars?_layout
    {s d l w₁ w₂ w₃ w₄ w₅ : List Char}
    (hSource : isIdentifier s = true)
    (hDestination : isIdentifier d = true)
    (hLabel : isIdentifier l = true)
    (h₁ : Text.Blank w₁)
    (h₂ : Text.Blank w₂)
    (h₃ : Text.Blank w₃)
    (h₄ : Text.Blank w₄)
    (h₅ : Text.Blank w₅) :
    ofChars?
        (s ++ w₁ ++ ['-', '>'] ++ w₂ ++ d ++ w₃ ++ ['('] ++
          w₄ ++ l ++ w₅ ++ [')']) =
      some
        ⟨String.ofList s, String.ofList d,
          String.ofList l⟩ := by
  have hArrow :
      '>' ∉ s ++ w₁ ++ ['-'] := by
    have hNil : Text.Blank [] := nofun
    have hPadded : '>' ∉ [] ++ s ++ w₁ :=
      not_mem_padded (by decide) (by decide) hNil hSource h₁
    simpa using hPadded
  have hOpening : '(' ∉ w₂ ++ d ++ w₃ :=
    not_mem_padded (by decide) (by decide) h₂ hDestination
      h₃
  have hClosing : ')' ∉ w₄ ++ l ++ w₅ :=
    not_mem_padded (by decide) (by decide) h₄ hLabel h₅
  have hCut := Text.cutAt_append hArrow
    (w₂ ++ d ++ w₃ ++ '(' :: (w₄ ++ l ++ w₅ ++ [')']))
  have hCutRight := Text.cutAt_append hOpening
    (w₄ ++ l ++ w₅ ++ [')'])
  have hCutInner := Text.cutAt_append hClosing []
  have hParts :
      parts?
          (s ++ w₁ ++ ['-', '>'] ++ w₂ ++ d ++ w₃ ++
            ['('] ++ w₄ ++ l ++ w₅ ++ [')']) =
        some (s ++ w₁, w₂ ++ d ++ w₃, w₄ ++ l ++ w₅) := by
    simp only [List.append_assoc, List.cons_append,
      List.nil_append] at hCut hCutRight hCutInner ⊢
    have hBefore :=
      beforeArrow?_append (s ++ w₁)
    rw [List.append_assoc] at hBefore
    simp only [parts?, hCut, hCutRight, hBefore, hCutInner]
  have hRead :
      name? (Text.trimEnd (s ++ w₁)) =
        some (String.ofList s) := by
    rw [Text.trimEnd_append (solid_of_isIdentifier hSource)
        h₁,
      name?_of_isIdentifier hSource]
  simp only [ofChars?, hParts, hRead,
    name?_trim h₂ hDestination h₃, name?_trim h₄ hLabel h₅]

------------------------------------------------------------
-- Textual Rules
------------------------------------------------------------

/- A rule is textual if its names are identifiers. -/
structure Textual (r : Rule) : Prop where
  source : isIdentifier r.source.toList = true
  destination : isIdentifier r.destination.toList = true
  label : isIdentifier r.label.toList = true

/- The usual way to write a rule is read back. -/
theorem parse?_text
    {r : Rule}
    (hTextual : r.Textual) :
    parse? r.text = some r := by
  have hSpace : Text.Blank [' '] := by
    intro c hMember
    rw [List.mem_singleton.mp hMember]
    decide
  have hNil : Text.Blank [] := nofun
  have hRead :=
    ofChars?_layout hTextual.source hTextual.destination
      hTextual.label hSpace hSpace hSpace hNil hNil
  simp only [String.ofList_toList] at hRead
  rw [← hRead]
  simp [parse?, text]

end Rule

end Statechart
