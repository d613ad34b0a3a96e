import Statechart.Proofs.Chart.Built

/-
  This file states what a chart is like after rules were
  applied to it, and that reading a text applies its rules.

  Key definitions include:
    * `Rule.transition`
    * `Rule.leaves`
    * `Chart.applyAll`

  Key theorems include:
    * `Chart.hasState_applyAll_iff`
    * `Chart.transition?_applyAll`
    * `Chart.initial_applyAll`
    * `Chart.readFrom_append`
-/

namespace Statechart

------------------------------------------------------------
-- Single Rules
------------------------------------------------------------

namespace Rule

/- The transition that a rule attaches to its source. -/
def transition
    {G A : Type}
    (r : Rule) : Transition G A :=
  { Transition.plain r.label r.destination with
    source := some r.source }

/- Is this the rule of a label that leaves a state? -/
def leaves
    (state label : String)
    (r : Rule) : Bool :=
  r.source == state && r.label == label

theorem leaves_iff
    {r : Rule}
    {state label : String} :
    r.leaves state label = true ↔
      r.source = state ∧ r.label = label := by
  simp [leaves]

/- There is no last rule if there is none. -/
theorem find?_reverse_eq_none_iff
    {rules : List Rule}
    {state label : String} :
    rules.reverse.find? (leaves state label) = none ↔
      ∀ r ∈ rules, r.leaves state label = false := by
  rw [List.find?_eq_none]
  simp only [List.mem_reverse, Bool.not_eq_true]

/- The last rule for a label that leaves a state. -/
theorem mem_of_find?_reverse
    {rules : List Rule}
    {state label : String}
    {r : Rule}
    (hFound :
      rules.reverse.find? (leaves state label) = some r) :
    r ∈ rules ∧ r.source = state ∧ r.label = label := by
  constructor
  · apply List.mem_reverse.mp
    exact List.mem_of_find?_eq_some hFound
  · exact leaves_iff.mp (List.find?_some hFound)

end Rule

namespace Chart

variable {G A : Type}
variable {c : Chart G A}

theorem WellFormed.transition?_applyRule
    (hWell : c.WellFormed)
    (r : Rule)
    (state label : String) :
    (c.applyRule r).transition? state label =
      if r.leaves state label then
        some r.transition
      else
        c.transition? state label := by
  unfold Chart.applyRule Chart.connect
  have hBoth :
      ((c.ensureState r.source).ensureState
        r.destination).WellFormed :=
    (hWell.ensureState r.source).ensureState r.destination
  have hSource :
      ((c.ensureState r.source).ensureState
        r.destination).hasState r.source = true := by
    rw [hasState_ensureState_iff, hasState_ensureState_iff]
    exact Or.inr (Or.inl rfl)
  rcases (hasState_iff _).mp hSource with ⟨s, hFound⟩
  rw [transition?_addTransition hFound,
    hBoth.labelled hFound]
  simp only [transition?_ensureState, Rule.leaves_iff]
  rfl

------------------------------------------------------------
-- Several Rules
------------------------------------------------------------

/- Apply rules in order. -/
def applyAll
    (c : Chart G A)
    (rules : List Rule) : Chart G A :=
  rules.foldl applyRule c

theorem applyAll_cons
    (c : Chart G A)
    (r : Rule)
    (rules : List Rule) :
    c.applyAll (r :: rules) =
      (c.applyRule r).applyAll rules :=
  rfl

theorem WellFormed.applyRule
    (hWell : c.WellFormed)
    (r : Rule) :
    (c.applyRule r).WellFormed :=
  hWell.connect _ _ _

theorem WellFormed.applyAll
    (hWell : c.WellFormed)
    (rules : List Rule) :
    (c.applyAll rules).WellFormed := by
  induction rules generalizing c with
  | nil => exact hWell
  | cons r rest ih => exact ih (hWell.applyRule r)

/- Exactly the states that rules mention are registered. -/
theorem hasState_applyAll_iff
    (c : Chart G A)
    (rules : List Rule)
    {state : String} :
    (c.applyAll rules).hasState state = true ↔
      c.hasState state = true ∨
        ∃ r ∈ rules,
          r.source = state ∨ r.destination = state := by
  induction rules generalizing c with
  | nil => simp [applyAll]
  | cons r rest ih =>
      rw [applyAll_cons, ih, applyRule,
        hasState_connect_iff]
      simp only [List.mem_cons, exists_eq_or_imp]
      constructor
      · rintro ((hSource | hDestination | hOld) | hRest)
        · exact Or.inr (Or.inl (Or.inl hSource))
        · exact Or.inr (Or.inl (Or.inr hDestination))
        · exact Or.inl hOld
        · exact Or.inr (Or.inr hRest)
      · rintro (hOld | (hSource | hDestination) | hRest)
        · exact Or.inl (Or.inr (Or.inr hOld))
        · exact Or.inl (Or.inl hSource)
        · exact Or.inl (Or.inr (Or.inl hDestination))
        · exact Or.inr hRest

/-
  The last rule for a label that leaves a state decides
  where it leads to. All other transitions stay.
-/
theorem WellFormed.transition?_applyAll
    (hWell : c.WellFormed)
    (rules : List Rule)
    (state label : String) :
    (c.applyAll rules).transition? state label =
      ((rules.reverse.find?
          (Rule.leaves state label)).map
        Rule.transition).or
        (c.transition? state label) := by
  induction rules generalizing c with
  | nil => rfl
  | cons r rest ih =>
      rw [applyAll_cons, ih (hWell.applyRule r),
        hWell.transition?_applyRule, List.reverse_cons,
        List.find?_append]
      cases rest.reverse.find? (Rule.leaves state label) with
      | some r' => rfl
      | none =>
          by_cases hLeaves : r.leaves state label = true
          · simp [hLeaves]
          · simp [hLeaves]

/- The source of the first rule may become initial. -/
theorem WellFormed.initial_applyAll
    (hWell : c.WellFormed)
    (rules : List Rule) :
    (c.applyAll rules).initial =
      c.initial.or (rules.head?.map Rule.source) := by
  induction rules generalizing c with
  | nil => simp [Chart.applyAll]
  | cons r rest ih =>
      have hFirst :
          (c.applyRule r).initial =
            some (c.initial.getD r.source) :=
        initial_connect (fun _ => hWell.started) _ _ _
      rw [applyAll_cons, ih (hWell.applyRule r), hFirst]
      cases c.initial <;> rfl

------------------------------------------------------------
-- Reading
------------------------------------------------------------

/- Statements that are rules are applied and counted. -/
theorem readFrom_append
    (c : Chart G A)
    (applied : Nat)
    {lines : List String}
    {rules : List Rule}
    (hParsed :
      lines.map Rule.parse? = rules.map some)
    (rest : List String) :
    c.readFrom applied (lines ++ rest) =
      (c.applyAll rules).readFrom
        (applied + rules.length) rest := by
  induction rules generalizing c applied lines with
  | nil =>
      have hNil : lines = [] := by simpa using hParsed
      rw [hNil]
      rfl
  | cons r rules ih =>
      cases lines with
      | nil => simp at hParsed
      | cons line lines =>
          rcases List.cons.inj hParsed with ⟨hRule, hRest⟩
          have hNext :=
            ih (c.applyRule r) (applied + 1) hRest
          simp only [List.cons_append, readFrom, hRule,
            hNext, applyAll_cons, List.length_cons]
          congr 1
          omega

/- A text of rules is read to its end. -/
theorem read_of_rules
    (c : Chart G A)
    {text : String}
    {rules : List Rule}
    (hParsed :
      (statements text).map Rule.parse? =
        rules.map some) :
    c.read text = ⟨c.applyAll rules, .ok rules.length⟩ := by
  have hRead := c.readFrom_append 0 hParsed []
  rw [List.append_nil, Nat.zero_add] at hRead
  exact hRead

theorem ofRules_eq_ok
    {text : String}
    {rules : List Rule}
    (hParsed :
      (statements text).map Rule.parse? =
        rules.map some) :
    ofRules text =
      .ok ((Chart.empty : Chart G A).applyAll rules) := by
  unfold ofRules
  rw [read_of_rules _ hParsed]

end Chart

end Statechart
