import Statechart.Chart.Construction
import Statechart.LabelMap.Lemmas

/-
  This file states what the operations that build charts do
  to the lookups of states and transitions and to the
  initial state. Later proofs about construction use these
  facts and never unfold an operation.

  Key theorems include:
    * `State.transition?_attach`
    * `Chart.state?_addState`
    * `Chart.state?_ensureState`
    * `Chart.state?_addTransition`
    * `Chart.hasState_connect_iff`
    * `Chart.initial_connect`
    * `Chart.designate_eq_ok_iff`
-/

namespace Statechart

------------------------------------------------------------
-- States
------------------------------------------------------------

namespace State

variable {G A : Type}

@[simp]
theorem transition?_plain
    (label other : String) :
    (State.plain label : State G A).transition? other =
      none :=
  rfl

@[simp]
theorem attach_label
    (s : State G A)
    (t : Transition G A) :
    (s.attach t).label = s.label :=
  rfl

/- The attached transition replaces one of its label. -/
theorem transition?_attach
    (s : State G A)
    (t : Transition G A)
    (label : String) :
    (s.attach t).transition? label =
      if t.label = label then
        some { t with source := some s.label }
      else
        s.transition? label :=
  LabelMap.get?_insert _ _ _ _

end State

namespace Chart

variable {G A : Type}

------------------------------------------------------------
-- Lookups
------------------------------------------------------------

theorem hasState_iff
    (c : Chart G A)
    {label : String} :
    c.hasState label = true ↔
      ∃ s, c.state? label = some s :=
  LabelMap.contains_iff _

theorem state?_eq_none_iff
    (c : Chart G A)
    {label : String} :
    c.state? label = none ↔ c.hasState label = false := by
  unfold hasState LabelMap.contains state?
  cases c.states.get? label <;> simp

/- A chart has no states if none is found. -/
theorem isEmpty_states_iff
    (c : Chart G A) :
    c.states.isEmpty = true ↔
      ∀ state, c.hasState state = false := by
  have hKeys :
      c.states.isEmpty = true ↔ c.states.keys = [] := by
    simp [LabelMap.isEmpty, LabelMap.keys]
  rw [hKeys, List.eq_nil_iff_forall_not_mem]
  simp only [LabelMap.mem_keys_iff, Bool.not_eq_true]
  rfl

theorem transition?_eq_some_iff
    (c : Chart G A)
    {state label : String}
    {t : Transition G A} :
    c.transition? state label = some t ↔
      ∃ s, c.state? state = some s ∧
        s.transition? label = some t := by
  unfold transition?
  cases c.state? state <;> simp

/- A transition leaves a registered state. -/
theorem hasState_of_transition?
    {c : Chart G A}
    {state label : String}
    {t : Transition G A}
    (hFound : c.transition? state label = some t) :
    c.hasState state = true := by
  rcases c.transition?_eq_some_iff.mp hFound with
    ⟨s, hState, _⟩
  exact c.hasState_iff.mpr ⟨s, hState⟩

/- Lookups of transitions are lookups of their states. -/
theorem transition?_congr
    {c d : Chart G A}
    {state : String}
    (hState : c.state? state = d.state? state)
    (label : String) :
    c.transition? state label =
      d.transition? state label := by
  unfold transition?
  rw [hState]

@[simp]
theorem state?_empty
    (label : String) :
    (Chart.empty : Chart G A).state? label = none :=
  rfl

@[simp]
theorem hasState_empty
    (label : String) :
    (Chart.empty : Chart G A).hasState label = false :=
  rfl

@[simp]
theorem transition?_empty
    (state label : String) :
    (Chart.empty : Chart G A).transition? state label =
      none :=
  rfl

------------------------------------------------------------
-- Adding States
------------------------------------------------------------

theorem state?_addState
    (c : Chart G A)
    (s : State G A)
    (label : String) :
    (c.addState s).state? label =
      if s.label = label then
        some s
      else
        c.state? label :=
  LabelMap.get?_insert _ _ _ _

theorem hasState_addState_iff
    (c : Chart G A)
    (s : State G A)
    {label : String} :
    (c.addState s).hasState label = true ↔
      s.label = label ∨ c.hasState label = true := by
  rw [hasState_iff, hasState_iff, state?_addState]
  by_cases hLabel : s.label = label <;> simp [hLabel]

theorem state?_ensureState_of_hasState
    {c : Chart G A}
    {label : String}
    (hState : c.hasState label = true)
    (created : String) :
    (c.ensureState created).state? label =
      c.state? label := by
  unfold ensureState
  split
  · rfl
  · rename_i hNew
    rw [state?_addState, if_neg]
    intro hEq
    have hSame : created = label := hEq
    exact hNew (hSame ▸ hState)

theorem state?_ensureState
    (c : Chart G A)
    (created label : String) :
    (c.ensureState created).state? label =
      if created = label ∧ c.hasState label = false then
        some (State.plain label)
      else
        c.state? label := by
  by_cases hState : c.hasState label = true
  · rw [state?_ensureState_of_hasState hState]
    simp [hState]
  · have hNew : c.hasState label = false :=
      Bool.eq_false_iff.mpr hState
    by_cases hEq : created = label
    · subst hEq
      simp [ensureState, hNew, state?_addState,
        State.plain]
    · unfold ensureState
      split
      · simp [hEq]
      · rw [state?_addState]
        simp [hEq, State.plain]

theorem hasState_ensureState_iff
    (c : Chart G A)
    (created : String)
    {label : String} :
    (c.ensureState created).hasState label = true ↔
      created = label ∨ c.hasState label = true := by
  rw [hasState_iff, state?_ensureState]
  by_cases hState : c.hasState label = true
  · rcases c.hasState_iff.mp hState with ⟨s, hFound⟩
    simp [hState, hFound]
  · have hNew : c.hasState label = false :=
      Bool.eq_false_iff.mpr hState
    have hNone := c.state?_eq_none_iff.mpr hNew
    by_cases hEq : created = label <;>
      simp [hNew, hNone, hEq]

/- A state that is created has no transitions yet. -/
@[simp]
theorem transition?_ensureState
    (c : Chart G A)
    (created state label : String) :
    (c.ensureState created).transition? state label =
      c.transition? state label := by
  by_cases hState : c.hasState state = true
  · exact transition?_congr
      (state?_ensureState_of_hasState hState created) label
  · have hNew : c.hasState state = false :=
      Bool.eq_false_iff.mpr hState
    have hNone := c.state?_eq_none_iff.mpr hNew
    unfold transition?
    rw [state?_ensureState, hNone]
    by_cases hEq : created = state <;> simp [hEq, hNew]

/- The initial label is only set where none is set yet. -/
theorem initial_ensureState
    (c : Chart G A)
    (created : String) :
    (c.ensureState created).initial =
      if c.hasState created = true then
        c.initial
      else
        some (c.initial.getD created) := by
  unfold ensureState
  split
  · rfl
  · unfold addState initialOr
    cases c.initial <;> rfl

------------------------------------------------------------
-- Adding Transitions
------------------------------------------------------------

theorem state?_addTransition
    (c : Chart G A)
    (state label : String)
    (t : Transition G A) :
    (c.addTransition state t).state? label =
      if state = label then
        (c.state? label).map (State.attach · t)
      else
        c.state? label :=
  LabelMap.get?_modify _ _ _ _

@[simp]
theorem initial_addTransition
    (c : Chart G A)
    (state : String)
    (t : Transition G A) :
    (c.addTransition state t).initial = c.initial :=
  rfl

@[simp]
theorem hasState_addTransition
    (c : Chart G A)
    (state label : String)
    (t : Transition G A) :
    (c.addTransition state t).hasState label =
      c.hasState label := by
  rw [Bool.eq_iff_iff, hasState_iff, hasState_iff,
    state?_addTransition]
  split
  · cases c.state? label <;> simp
  · rfl

/-
  A transition that is attached to a registered state is
  found there, with that state as its source.
-/
theorem transition?_addTransition
    {c : Chart G A}
    {s : State G A}
    {owner : String}
    (hOwner : c.state? owner = some s)
    (t : Transition G A)
    (state label : String) :
    (c.addTransition owner t).transition? state label =
      if owner = state ∧ t.label = label then
        some { t with source := some s.label }
      else
        c.transition? state label := by
  unfold transition?
  rw [state?_addTransition]
  by_cases hState : owner = state
  · subst hState
    simp [hOwner, State.transition?_attach]
  · simp [hState]

------------------------------------------------------------
-- Connecting States
------------------------------------------------------------

theorem hasState_connect_iff
    (c : Chart G A)
    (source destination label : String)
    {state : String} :
    (c.connect source destination label).hasState state =
        true ↔
      source = state ∨ destination = state ∨
        c.hasState state = true := by
  unfold connect
  rw [hasState_addTransition, hasState_ensureState_iff,
    hasState_ensureState_iff]
  constructor
  · rintro (h | h | h)
    · exact Or.inr (Or.inl h)
    · exact Or.inl h
    · exact Or.inr (Or.inr h)
  · rintro (h | h | h)
    · exact Or.inr (Or.inl h)
    · exact Or.inl h
    · exact Or.inr (Or.inr h)

/- The first state that is mentioned becomes initial. -/
theorem initial_connect
    {c : Chart G A}
    (hStarted :
      ∀ label, c.hasState label = true →
        c.initial ≠ none)
    (source destination label : String) :
    (c.connect source destination label).initial =
      some (c.initial.getD source) := by
  have hFirst :
      (c.ensureState source).initial =
        some (c.initial.getD source) := by
    rw [initial_ensureState]
    split
    · rename_i hState
      cases hInitial : c.initial with
      | none => exact absurd hInitial (hStarted _ hState)
      | some label => rfl
    · rfl
  unfold connect
  rw [initial_addTransition, initial_ensureState, hFirst]
  split <;> rfl

------------------------------------------------------------
-- Designating the Initial State
------------------------------------------------------------

theorem designate_eq_ok_iff
    {c d : Chart G A}
    {label : String} :
    c.designate label = .ok d ↔
      c.hasState label = true ∧
        d = { c with initial := some label } := by
  unfold designate
  split
  · rename_i hState
    simp [hState, eq_comm]
  · rename_i hNew
    simp [hNew]

end Chart

end Statechart
