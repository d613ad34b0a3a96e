import Statechart.Proofs.Chart.Closed
import Statechart.Proofs.Chart.Edges
import Statechart.Proofs.Rule.Statement
import Statechart.Rule.Writing

/-
  This file states which rules are written for a chart and
  in which order, and that the text they are written in is
  determined by the rules alone.

  Key definitions include:
    * `Chart.Textual`
    * `Chart.sortedRules`

  Key theorems include:
    * `Chart.WellFormed.mem_rules_iff`
    * `Chart.WellFormed.rules_nodup`
    * `Chart.ruleText_eq_of_perm`
    * `Rule.source_le_of_line_le`
    * `Chart.Textual.statements_ruleText`
-/

namespace Statechart

------------------------------------------------------------
-- The Order of Lines
------------------------------------------------------------

/-
  A text stays behind another one, whatever comes after it,
  if what comes after the other starts with a space and the
  text itself holds only greater characters.
-/
theorem append_lt_append_of_space
    {left right : List Char}
    (hGreater : ∀ c ∈ right, ' ' < c)
    (hLess : left < right)
    (x y : List Char) :
    left ++ ' ' :: x < right ++ y := by
  induction left generalizing right with
  | nil =>
      cases right with
      | nil => exact absurd hLess (List.lt_irrefl [])
      | cons c rest =>
          apply List.cons_lt_cons_iff.mpr
          exact Or.inl (hGreater c List.mem_cons_self)
  | cons b left ih =>
      cases right with
      | nil => exact absurd hLess (List.not_lt_nil _)
      | cons c rest =>
          apply List.cons_lt_cons_iff.mpr
          rcases List.cons_lt_cons_iff.mp hLess with
            hFirst | ⟨hEq, hRest⟩
          · exact Or.inl hFirst
          · refine Or.inr ⟨hEq, ih ?_ hRest⟩
            intro d hMember
            exact hGreater d (List.mem_cons_of_mem c hMember)

namespace Rule

/- Every character of an identifier is behind the space. -/
theorem space_lt_of_isIdentifier
    {name : List Char}
    (hName : isIdentifier name = true) :
    ∀ c ∈ name, ' ' < c := by
  intro c hMember
  have hBounds :=
    isIdentChar_bounds
      ((isIdentifier_iff.mp hName).2 c hMember)
  exact hBounds.1

/- Lines are in the order of their sources first. -/
theorem source_le_of_line_le
    {r r' : Rule}
    (hTextual : r.Textual)
    (hLine : r.line ≤ r'.line) :
    r.source ≤ r'.source := by
  apply String.not_lt.mp
  intro hLess
  have hChars : r'.source.toList < r.source.toList :=
    String.lt_iff.mp hLess
  have hLess' : r'.line < r.line := by
    apply String.lt_iff.mpr
    have hAppend :=
      append_lt_append_of_space
        (space_lt_of_isIdentifier hTextual.source) hChars
        ("-> " ++ r'.destination ++ " (" ++ r'.label ++
          ");").toList
        (" -> " ++ r.destination ++ " (" ++ r.label ++
          ");").toList
    simpa [line, text] using hAppend
  exact String.not_lt.mpr hLine hLess'

/- Does the line of a rule come before another one? -/
def before (r r' : Rule) : Bool :=
  decide (r.line ≤ r'.line)

end Rule

namespace Chart

variable {G A : Type}
variable {c d : Chart G A}

------------------------------------------------------------
-- Rules of a Chart
------------------------------------------------------------

/- There is one rule for each transition. -/
theorem WellFormed.mem_rules_iff
    (hWell : c.WellFormed)
    {r : Rule} :
    r ∈ c.rules ↔
      ∃ t, c.transition? r.source r.label = some t ∧
        t.destination = r.destination := by
  unfold rules
  rw [List.mem_map]
  constructor
  · rintro ⟨⟨s, t⟩, hEdge, rfl⟩
    exact ⟨t, (hWell.mem_edges_iff_labels.mp hEdge).2, rfl⟩
  · rintro ⟨t, hFound, hDestination⟩
    rcases hWell.exists_mem_edges hFound with
      ⟨s, hEdge, hState, hLabel⟩
    refine ⟨(s, t), hEdge, ?_⟩
    rw [hState, hLabel, hDestination]

/- No two rules are about the same label and state. -/
theorem WellFormed.rules_nodup
    (hWell : c.WellFormed) :
    c.rules.Nodup := by
  unfold rules
  apply List.pairwise_map.mpr
  apply hWell.edges_ascending.imp
  rintro ⟨s, t⟩ ⟨s', t'⟩ hBefore hEq
  injection hEq with hState hDestination hLabel
  rcases hBefore with hLess | ⟨_, hLess⟩
  · rw [hState] at hLess
    exact String.lt_irrefl _ hLess
  · rw [hLabel] at hLess
    exact String.lt_irrefl _ hLess

------------------------------------------------------------
-- Sorted Rules
------------------------------------------------------------

/- The rules of a chart in the order of their lines. -/
def sortedRules (c : Chart G A) : List Rule :=
  c.rules.mergeSort Rule.before

theorem sortedRules_perm
    (c : Chart G A) :
    c.sortedRules.Perm c.rules :=
  List.mergeSort_perm _ _

theorem ruleLines_eq
    (c : Chart G A) :
    c.ruleLines = c.sortedRules.map Rule.line := by
  unfold sortedRules ruleLines
  rw [List.map_mergeSort]
  · rfl
  · intro r _ r' _
    rfl

theorem ruleLines_sorted
    (c : Chart G A) :
    c.ruleLines.Pairwise (· ≤ ·) := by
  have hSorted :
      c.ruleLines.Pairwise
        fun x y => decide (x ≤ y) = true := by
    unfold ruleLines
    apply List.pairwise_mergeSort
    · intro x y z hFirst hSecond
      rw [decide_eq_true_eq] at hFirst hSecond ⊢
      exact String.le_trans hFirst hSecond
    · intro x y
      simpa using String.le_total x y
  exact hSorted.imp of_decide_eq_true

/- Charts with the same rules have the same rule text. -/
theorem ruleText_eq_of_perm
    (hPerm : c.rules.Perm d.rules) :
    c.ruleText = d.ruleText := by
  have hLines : c.ruleLines.Perm d.ruleLines := by
    rw [ruleLines_eq, ruleLines_eq]
    apply List.Perm.map
    exact
      c.sortedRules_perm.trans
        (hPerm.trans d.sortedRules_perm.symm)
  unfold ruleText
  rw [hLines.eq_of_pairwise
    (fun x y _ _ hLeft hRight =>
      String.le_antisymm hLeft hRight)
    c.ruleLines_sorted d.ruleLines_sorted]

------------------------------------------------------------
-- Textual Charts
------------------------------------------------------------

/-
  A chart is textual if the labels of all transitions, of
  the states they leave and of the states they lead to are
  identifiers. States without transitions may have any
  label.
-/
def Textual (c : Chart G A) : Prop :=
  ∀ state label t,
    c.transition? state label = some t →
      isIdentifier state.toList = true ∧
        isIdentifier label.toList = true ∧
          isIdentifier t.destination.toList = true

namespace Textual

theorem of_mem_sortedRules
    (hTextual : c.Textual)
    (hWell : c.WellFormed)
    {r : Rule}
    (hRule : r ∈ c.sortedRules) :
    r.Textual := by
  rcases hWell.mem_rules_iff.mp
      (c.sortedRules_perm.mem_iff.mp hRule) with
    ⟨t, hFound, hDestination⟩
  rcases hTextual _ _ t hFound with
    ⟨hSource, hLabel, hTarget⟩
  exact ⟨hSource, hDestination ▸ hTarget, hLabel⟩

/- The statements of a rule text are its sorted rules. -/
theorem statements_ruleText
    (hTextual : c.Textual)
    (hWell : c.WellFormed) :
    (statements c.ruleText).map Rule.parse? =
      c.sortedRules.map some := by
  have hRules :
      ∀ r ∈ c.sortedRules, r.Textual :=
    fun _ hRule => hTextual.of_mem_sortedRules hWell hRule
  unfold ruleText
  rw [ruleLines_eq, statements_lines hRules, List.map_map]
  apply List.map_congr_left
  intro r hRule
  exact Rule.parse?_text (hRules r hRule)

/- No rule has a lesser source than the first one. -/
theorem sortedRules_head
    (hTextual : c.Textual)
    (hWell : c.WellFormed)
    {first : Rule}
    {rest : List Rule}
    (hSorted : c.sortedRules = first :: rest) :
    ∀ r ∈ c.sortedRules, first.source ≤ r.source := by
  have hLines := c.ruleLines_sorted
  rw [ruleLines_eq, hSorted, List.map_cons,
    List.pairwise_cons] at hLines
  have hFirst : first.Textual := by
    apply hTextual.of_mem_sortedRules hWell
    rw [hSorted]
    exact List.mem_cons_self
  intro r hRule
  rw [hSorted] at hRule
  rcases List.mem_cons.mp hRule with rfl | hRest
  · exact String.le_refl _
  · exact
      Rule.source_le_of_line_le hFirst
        (hLines.1 _ (List.mem_map_of_mem hRest))

end Textual

end Chart

end Statechart
