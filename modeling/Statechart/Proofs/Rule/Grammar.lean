import Statechart.Proofs.Rule.Layout

/-
  This file states which texts are rules. A text is a rule
  if it is written in some layout: three identifiers, the
  arrow and the parentheses, with any blanks between them.
  Every text has at most one such reading, although hyphens
  belong to identifiers and to the arrow, and it is the one
  that is found.

  The grammar is also given as a pattern, the concatenation
  of captured names, skipped blanks and signs. As there is at
  most one way to match it, it does not matter which one a
  matcher would try first.

  Key definitions include:
    * `IsName`
    * `Rule.WrittenAs`
    * `Pattern`
    * `Pattern.Matches`
    * `Rule.pattern`

  Key theorems include:
    * `isIdentifier_iff_isName`
    * `Rule.ofChars?_eq_some_iff`
    * `Rule.textual_of_parse?`
    * `Rule.matches_pattern_iff`
    * `Rule.parse?_exact`
-/

namespace Statechart

------------------------------------------------------------
-- Names
------------------------------------------------------------

/- The characters of names, range by range. -/
def IsNameChar (c : Char) : Prop :=
  ('A' ≤ c ∧ c ≤ 'Z') ∨ ('a' ≤ c ∧ c ≤ 'z') ∨
    ('0' ≤ c ∧ c ≤ '9') ∨ c = '_' ∨ c = '.' ∨ c = '-'

instance : DecidablePred IsNameChar := fun _ =>
  inferInstanceAs (Decidable (_ ∨ _))

/- A name is a non-empty text of such characters. -/
structure IsName (name : List Char) : Prop where
  nonempty : name ≠ []
  chars : ∀ c ∈ name, IsNameChar c

theorem isIdentChar_iff
    {c : Char} :
    isIdentChar c = true ↔ IsNameChar c := by
  have hRanges :
      isIdentChar c =
        (((decide (c.val ≥ 'A'.val ∧ c.val ≤ 'Z'.val) ||
              (decide (c.val ≥ 'a'.val) &&
                decide (c.val ≤ 'z'.val))) ||
            (decide (c.val ≥ '0'.val) &&
              decide (c.val ≤ '9'.val))) ||
          c == '_' || c == '.' || c == '-') :=
    rfl
  rw [hRanges]
  simp only [IsNameChar, Bool.or_eq_true, Bool.and_eq_true,
    beq_iff_eq, decide_eq_true_eq, ge_iff_le, Char.le_def,
    or_assoc]

/- Identifiers are names. -/
theorem isIdentifier_iff_isName
    {name : List Char} :
    isIdentifier name = true ↔ IsName name := by
  simp only [isIdentifier_iff, isIdentChar_iff]
  exact
    ⟨fun h => ⟨h.1, h.2⟩, fun h => ⟨h.nonempty, h.chars⟩⟩

------------------------------------------------------------
-- Written Rules
------------------------------------------------------------

namespace Rule

/- The names in a rule, in the order of the text. -/
def names (r : Rule) : List (List Char) :=
  [r.source.toList, r.destination.toList, r.label.toList]

theorem textual_iff
    {r : Rule} :
    r.Textual ↔ ∀ name ∈ r.names, IsName name := by
  simp only [names, List.forall_mem_cons, List.not_mem_nil,
    false_implies, implies_true, and_true,
    ← isIdentifier_iff_isName]
  exact
    ⟨fun h => ⟨h.source, h.destination, h.label⟩,
      fun h => ⟨h.1, h.2.1, h.2.2⟩⟩

/-
  A text writes a rule if it consists of the three names,
  the arrow and the two parentheses, with blanks in the five
  gaps and nothing at either end.
-/
inductive WrittenAs (r : Rule) (text : List Char) : Prop where
  | intro
      (w₁ w₂ w₃ w₄ w₅ : List Char)
      (hNames : ∀ name ∈ r.names, IsName name)
      (h₁ : Text.Blank w₁)
      (h₂ : Text.Blank w₂)
      (h₃ : Text.Blank w₃)
      (h₄ : Text.Blank w₄)
      (h₅ : Text.Blank w₅)
      (hText :
        text =
          r.source.toList ++ w₁ ++ ['-', '>'] ++ w₂ ++
            r.destination.toList ++ w₃ ++ ['('] ++ w₄ ++
            r.label.toList ++ w₅ ++ [')'])

/- A written rule is found. -/
theorem WrittenAs.ofChars?_eq
    {r : Rule}
    {text : List Char}
    (hWritten : r.WrittenAs text) :
    ofChars? text = some r := by
  rcases hWritten with
    ⟨w₁, w₂, w₃, w₄, w₅, hNames, h₁, h₂, h₃, h₄, h₅, hText⟩
  have hTextual := textual_iff.mpr hNames
  have hRead :=
    ofChars?_layout hTextual.source hTextual.destination
      hTextual.label h₁ h₂ h₃ h₄ h₅
  rw [← hText] at hRead
  simpa only [String.ofList_toList] using hRead

/- A text is a rule in one way at most. -/
theorem WrittenAs.unique
    {r r' : Rule}
    {text : List Char}
    (hWritten : r.WrittenAs text)
    (hWritten' : r'.WrittenAs text) :
    r = r' :=
  Option.some.inj
    (hWritten.ofChars?_eq.symm.trans hWritten'.ofChars?_eq)

------------------------------------------------------------
-- Found Rules
------------------------------------------------------------

/- A name is found in the identifier itself only. -/
theorem of_name?
    {chars : List Char}
    {name : String}
    (hName : name? chars = some name) :
    isIdentifier chars = true ∧ name.toList = chars := by
  unfold name? at hName
  split at hName
  · rename_i hIdentifier
    cases hName
    exact ⟨hIdentifier, String.toList_ofList⟩
  · cases hName

theorem eq_of_beforeArrow?
    {chars before : List Char}
    (hBefore : beforeArrow? chars = some before) :
    chars = before ++ ['-'] := by
  unfold beforeArrow? at hBefore
  split at hBefore
  · rename_i rest hReverse
    cases hBefore
    have hChars := congrArg List.reverse hReverse
    rwa [List.reverse_reverse, List.reverse_cons] at hChars
  · cases hBefore

/- The parts of a text, with the signs between them. -/
theorem eq_of_parts?
    {text source destination label : List Char}
    (hParts :
      parts? text = some (source, destination, label)) :
    text =
      source ++ ['-', '>'] ++ destination ++ ['('] ++
        label ++ [')'] := by
  unfold parts? at hParts
  split at hParts
  · cases hParts
  · rename_i left right hArrow
    split at hParts
    · rename_i source' destination' inner hBefore hOpening
      split at hParts
      · rename_i label' hClosing
        cases hParts
        have hLeft := eq_of_beforeArrow? hBefore
        rw [Text.eq_of_cutAt hArrow,
          Text.eq_of_cutAt hOpening,
          Text.eq_of_cutAt hClosing, hLeft]
        simp
      · cases hParts
    · cases hParts

/- A rule that is found is written in the text. -/
theorem writtenAs_of_ofChars?
    {text : List Char}
    {r : Rule}
    (hFound : ofChars? text = some r) :
    r.WrittenAs text := by
  unfold ofChars? at hFound
  split at hFound
  · cases hFound
  · rename_i source destination label hParts
    split at hFound
    · rename_i s d l hSource hDestination hLabel
      cases hFound
      have hs := of_name? hSource
      have hd := of_name? hDestination
      have hl := of_name? hLabel
      rcases Text.exists_blank_of_trimEnd source with
        ⟨w₁, h₁, hSourceText⟩
      rcases Text.exists_blank_of_trim destination with
        ⟨w₂, w₃, h₂, h₃, hDestinationText⟩
      rcases Text.exists_blank_of_trim label with
        ⟨w₄, w₅, h₄, h₅, hLabelText⟩
      have hText := eq_of_parts? hParts
      rw [← hs.2] at hSourceText
      rw [← hd.2] at hDestinationText
      rw [← hl.2] at hLabelText
      rw [hSourceText, hDestinationText, hLabelText] at hText
      have hTextual : Textual ⟨s, d, l⟩ :=
        ⟨hs.2 ▸ hs.1, hd.2 ▸ hd.1, hl.2 ▸ hl.1⟩
      refine
        ⟨w₁, w₂, w₃, w₄, w₅, textual_iff.mp hTextual, h₁, h₂,
          h₃, h₄, h₅, ?_⟩
      simpa only [List.append_assoc] using hText
    · cases hFound

/- Exactly the written rules are found. -/
theorem ofChars?_eq_some_iff
    {text : List Char}
    {r : Rule} :
    ofChars? text = some r ↔ r.WrittenAs text :=
  ⟨writtenAs_of_ofChars?, WrittenAs.ofChars?_eq⟩

/- What is read as a rule has identifiers for names. -/
theorem textual_of_parse?
    {statement : String}
    {r : Rule}
    (hFound : parse? statement = some r) :
    r.Textual := by
  rcases writtenAs_of_ofChars? hFound with
    ⟨_, _, _, _, _, hNames, _⟩
  exact textual_iff.mpr hNames

end Rule

------------------------------------------------------------
-- Patterns
------------------------------------------------------------

/-
  A part of a pattern: a non-empty run of characters of some
  class that is captured, a run that may be empty and is
  skipped, or signs that stand there literally.
-/
inductive Pattern.Part where
  | captured (accepts : Char → Bool)
  | skipped (accepts : Char → Bool)
  | signs (text : List Char)

/- The parts of a pattern follow one another in a text. -/
abbrev Pattern := List Pattern.Part

/-
  A pattern matches a text from its start to its end with
  some captures.
-/
def Pattern.Matches :
    Pattern → List Char → List (List Char) → Prop
  | [], text, captures => text = [] ∧ captures = []
  | .captured accepts :: rest, text, captures =>
      ∃ run after others,
        run ≠ [] ∧ (∀ c ∈ run, accepts c = true) ∧
          text = run ++ after ∧ captures = run :: others ∧
          Pattern.Matches rest after others
  | .skipped accepts :: rest, text, captures =>
      ∃ run after,
        (∀ c ∈ run, accepts c = true) ∧
          text = run ++ after ∧
          Pattern.Matches rest after captures
  | .signs sign :: rest, text, captures =>
      ∃ after,
        text = sign ++ after ∧
          Pattern.Matches rest after captures

namespace Rule

/- The pattern of rules. -/
def pattern : Pattern :=
  let name : Pattern.Part := .captured (decide <| IsNameChar ·)
  let gap : Pattern.Part := .skipped Text.isBlank
  [ name, gap, .signs ['-', '>'], gap, name, gap,
    .signs ['('], gap, name, gap, .signs [')'] ]

/- The pattern captures the names of written rules. -/
theorem matches_pattern_iff
    {text : List Char}
    {captures : List (List Char)} :
    pattern.Matches text captures ↔
      ∃ r : Rule,
        r.WrittenAs text ∧ captures = r.names := by
  constructor
  · rintro
      ⟨s, _, _, hs, hsChars, rfl, rfl, w₁, _, h₁, rfl, _,
        rfl, w₂, _, h₂, rfl, d, _, _, hd, hdChars, rfl,
        rfl, w₃, _, h₃, rfl, _, rfl, w₄, _, h₄, rfl,
        l, _, _, hl, hlChars, rfl, rfl, w₅, _, h₅, rfl, _,
        rfl, rfl, rfl⟩
    simp only [decide_eq_true_eq] at hsChars hdChars hlChars
    refine
      ⟨⟨String.ofList s, String.ofList d, String.ofList l⟩,
        ⟨w₁, w₂, w₃, w₄, w₅, ?_, h₁, h₂, h₃, h₄, h₅, ?_⟩, ?_⟩
    · simp only [names, String.toList_ofList,
        List.forall_mem_cons, List.not_mem_nil,
        false_implies, implies_true, and_true]
      exact
        ⟨⟨hs, hsChars⟩, ⟨hd, hdChars⟩, ⟨hl, hlChars⟩⟩
    · simp only [String.toList_ofList, List.append_assoc,
        List.append_nil]
    · simp only [names, String.toList_ofList]
  · rintro
      ⟨r, ⟨w₁, w₂, w₃, w₄, w₅, hNames, h₁, h₂, h₃, h₄, h₅,
        hText⟩, rfl⟩
    have hName :
        ∀ name ∈ r.names,
          name ≠ [] ∧
            ∀ c ∈ name, decide (IsNameChar c) = true := by
      intro name hMember
      have hIsName := hNames name hMember
      simp only [decide_eq_true_eq]
      exact ⟨hIsName.nonempty, hIsName.chars⟩
    simp only [names, List.forall_mem_cons] at hName
    rcases hName with ⟨hs, hd, hl, _⟩
    simp only [List.append_assoc] at hText
    -- Each part of the pattern takes one part of the text.
    exact
      ⟨_, _, _, hs.1, hs.2, hText, rfl, _, _, h₁, rfl, _, rfl,
        _, _, h₂, rfl, _, _, _, hd.1, hd.2, rfl, rfl, _, _,
        h₃, rfl, _, rfl, _, _, h₄, rfl, _, _, _, hl.1, hl.2,
        rfl, rfl, _, _, h₅, rfl, _, (List.append_nil _).symm,
        rfl, rfl⟩

------------------------------------------------------------
-- Reading Rules
------------------------------------------------------------

/-
  Reading a text gives exactly the rule that it writes, and
  none if it writes none. No text writes two rules, and the
  pattern captures the names of the rule that is read,
  however it is matched.
-/
theorem parse?_exact
    (text : String) :
    (∀ r : Rule,
        parse? text = some r ↔ r.WrittenAs text.toList) ∧
      (parse? text = none ↔
        ¬ ∃ r : Rule, r.WrittenAs text.toList) ∧
      (∀ r r' : Rule,
        r.WrittenAs text.toList →
          r'.WrittenAs text.toList → r = r') ∧
      ∀ captures,
        pattern.Matches text.toList captures ↔
          (parse? text).map names = some captures := by
  have hExact :
      ∀ r : Rule,
        parse? text = some r ↔ r.WrittenAs text.toList :=
    fun _ => ofChars?_eq_some_iff
  refine ⟨hExact, ?_, ?_, ?_⟩
  · rw [Option.eq_none_iff_forall_ne_some]
    simp only [ne_eq, hExact, not_exists]
  · intro r r' hWritten hWritten'
    exact hWritten.unique hWritten'
  · intro captures
    rw [matches_pattern_iff, Option.map_eq_some_iff]
    simp only [hExact, eq_comm]

/-
  The source ends with a hyphen right before the arrow, the
  destination begins with one, and a line feed is a blank.
-/
theorem parse?_exact_hyphens :
    let text := "x-->-y\n( z)"
    let r : Rule := ⟨"x-", "-y", "z"⟩
    parse? text = some r ∧
      r.WrittenAs text.toList ∧
      (∀ r' : Rule, r'.WrittenAs text.toList → r = r') ∧
      ∀ captures,
        pattern.Matches text.toList captures →
          captures = r.names := by
  intro text r
  have hFound : parse? text = some r := by
    decide +kernel
  rcases parse?_exact text with
    ⟨hExact, _, hUnique, hCaptures⟩
  have hWritten := (hExact r).mp hFound
  refine
    ⟨hFound, hWritten,
      fun r' hWritten' => hUnique r r' hWritten hWritten',
      ?_⟩
  intro captures hMatches
  have hNames := (hCaptures captures).mp hMatches
  rw [hFound] at hNames
  exact (Option.some.inj hNames).symm

end Rule

end Statechart
