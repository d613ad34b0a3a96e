import Statechart.Proofs.Chart.Built

/-
  This file states when charts have the same outline: if
  they have the same states, the same initial state, and the
  same labels leave every state.

  Key theorems include:
    * `Chart.sameOutline_iff`
    * `Chart.outline_eq_iff`
    * `Chart.WellFormed.sameOutline_iff`
-/

namespace Statechart

theorem State.sameOutline_iff
    {G A : Type}
    {s s' : State G A} :
    s.sameOutline s' = true ↔ s.outline = s'.outline :=
  beq_iff_eq

namespace Chart

variable {G A : Type}
variable {c d : Chart G A}

theorem sameOutline_iff :
    c.sameOutline d = true ↔ c.outline = d.outline :=
  beq_iff_eq

theorem outline_eq_iff :
    c.outline = d.outline ↔
      c.initial = d.initial ∧
        ∀ label,
          (c.state? label).map State.outline =
            (d.state? label).map State.outline := by
  have hOutline :
      ∀ c : Chart G A,
        c.outline =
          (c.initial, (c.states.map State.outline).entries) :=
    fun _ => rfl
  rw [hOutline, hOutline, Prod.mk.injEq]
  apply and_congr_right
  intro _
  constructor
  · intro hEntries label
    unfold state?
    rw [← LabelMap.get?_map, ← LabelMap.get?_map]
    unfold LabelMap.get?
    rw [hEntries]
  · intro hLookups
    apply congrArg LabelMap.entries
    apply LabelMap.ext_get?
    intro label
    rw [LabelMap.get?_map, LabelMap.get?_map]
    exact hLookups label

/- The outline of a state shows which labels leave it. -/
theorem outline_state_eq_iff
    {s s' : State G A} :
    s.outline = s'.outline ↔
      s.label = s'.label ∧
        ∀ label,
          (s.transition? label).isSome =
            (s'.transition? label).isSome := by
  unfold State.outline State.transitionLabels
  rw [Prod.mk.injEq, LabelMap.keys_eq_iff]
  rfl

/- So does the chart in which the state is registered. -/
theorem WellFormed.map_outline_eq_iff
    (hLeft : c.WellFormed)
    (hRight : d.WellFormed)
    {state : String} :
    (c.state? state).map State.outline =
        (d.state? state).map State.outline ↔
      c.hasState state = d.hasState state ∧
        ∀ label,
          (c.transition? state label).isSome =
            (d.transition? state label).isSome := by
  unfold hasState LabelMap.contains transition?
  change _ ↔ (c.state? state).isSome =
    (d.state? state).isSome ∧ _
  cases hFound : c.state? state with
  | none =>
      cases hFound' : d.state? state with
      | none => simp
      | some s' => simp
  | some s =>
      cases hFound' : d.state? state with
      | none => simp
      | some s' =>
          have hLabel := hLeft.labelled hFound
          have hLabel' := hRight.labelled hFound'
          simp [outline_state_eq_iff, hLabel, hLabel']

/-
  Well-formed charts have the same outline if and only if
  they agree on the initial state, on the registered states
  and on the labels that leave each of them.
-/
theorem WellFormed.sameOutline_iff
    (hLeft : c.WellFormed)
    (hRight : d.WellFormed) :
    c.sameOutline d = true ↔
      c.initial = d.initial ∧
        (∀ state, c.hasState state = d.hasState state) ∧
        ∀ state label,
          (c.transition? state label).isSome =
            (d.transition? state label).isSome := by
  rw [Chart.sameOutline_iff, outline_eq_iff, ← forall_and]
  apply and_congr_right
  intro _
  exact
    forall_congr' fun _ => hLeft.map_outline_eq_iff hRight

end Chart

end Statechart
