import Statechart.Proofs.Chart.Built
import Statechart.Proofs.Chart.Closed

/-
  This file states in which order the states and the edges
  of a well-formed chart are listed, and that no edge is
  listed twice.

  Key definitions include:
    * `Chart.EdgeBefore`

  Key theorems include:
    * `Chart.WellFormed.stateList_labels`
    * `Chart.WellFormed.mem_stateList_iff_label`
    * `Chart.WellFormed.mem_edges_iff_labels`
    * `Chart.WellFormed.edges_ascending`
    * `Chart.edges_length`
-/

namespace Statechart

/- Transitions of a well-formed state are listed by label. -/
theorem State.WellFormed.transition_labels
    {G A : Type}
    {s : State G A}
    (hWell : s.WellFormed) :
    s.transitions.values.map Transition.label =
      s.transitionLabels :=
  s.transitions.values_map_eq_keys
    fun label t hFound => (hWell label t hFound).1

theorem State.WellFormed.transitions_ascending
    {G A : Type}
    {s : State G A}
    (hWell : s.WellFormed) :
    s.transitions.values.Pairwise
      fun t t' => t.label < t'.label := by
  rw [← List.pairwise_map, hWell.transition_labels]
  exact s.transitions.keys_ascending

namespace Chart

variable {G A : Type}

/-
  The order in which edges are listed: by the label of the
  state first, and then by the label of the transition.
-/
def EdgeBefore
    (e e' : State G A × Transition G A) : Prop :=
  e.1.label < e'.1.label ∨
    e.1.label = e'.1.label ∧ e.2.label < e'.2.label

/- There are as many edges as transitions of states. -/
theorem edges_length
    (c : Chart G A) :
    c.edges.length =
      (c.stateList.flatMap (·.transitions.values)).length := by
  simp [edges, List.length_flatMap]

namespace WellFormed

variable {c : Chart G A}

theorem stateList_labels
    (hWell : c.WellFormed) :
    c.stateList.map State.label = c.states.keys :=
  c.states.values_map_eq_keys
    fun _ _ hFound => hWell.labelled hFound

theorem stateList_ascending
    (hWell : c.WellFormed) :
    c.stateList.Pairwise fun s s' => s.label < s'.label := by
  rw [← List.pairwise_map, hWell.stateList_labels]
  exact c.states.keys_ascending

/- A listed state is the one stored under its label. -/
theorem mem_stateList_iff_label
    (hWell : c.WellFormed)
    {s : State G A} :
    s ∈ c.stateList ↔ c.state? s.label = some s := by
  rw [c.mem_stateList_iff]
  constructor
  · rintro ⟨label, hFound⟩
    rw [hWell.labelled hFound]
    exact hFound
  · exact fun hFound => ⟨s.label, hFound⟩

/- A listed edge is the one stored under its two labels. -/
theorem mem_edges_iff_labels
    (hWell : c.WellFormed)
    {s : State G A}
    {t : Transition G A} :
    (s, t) ∈ c.edges ↔
      c.state? s.label = some s ∧
        c.transition? s.label t.label = some t := by
  rw [c.mem_edges_iff]
  constructor
  · rintro ⟨state, label, hState, hTransition⟩
    have hFound : c.transition? state label = some t :=
      c.transition?_eq_some_iff.mpr ⟨s, hState, hTransition⟩
    rw [hWell.labelled hState,
      (hWell.transition?_fields hFound).1]
    exact ⟨hState, hFound⟩
  · rintro ⟨hState, hFound⟩
    rcases c.transition?_eq_some_iff.mp hFound with
      ⟨s', hState', hTransition⟩
    rw [hState] at hState'
    cases hState'
    exact ⟨s.label, t.label, hState, hTransition⟩

/- A transition that is found is the end of an edge. -/
theorem exists_mem_edges
    (hWell : c.WellFormed)
    {state label : String}
    {t : Transition G A}
    (hFound : c.transition? state label = some t) :
    ∃ s, (s, t) ∈ c.edges ∧
      s.label = state ∧ t.label = label := by
  rcases c.transition?_eq_some_iff.mp hFound with
    ⟨s, hState, hTransition⟩
  exact
    ⟨s,
      c.mem_edges_iff.mpr
        ⟨state, label, hState, hTransition⟩,
      hWell.labelled hState,
      (hWell.transition?_fields hFound).1⟩

/- There is an initial label unless there are no states. -/
theorem stateList_eq_nil_iff
    (hWell : c.WellFormed) :
    c.stateList = [] ↔ c.initial = none := by
  constructor
  · intro hEmpty
    cases hInitial : c.initial with
    | none => rfl
    | some label =>
        have hState := hWell.registered hInitial
        rcases c.hasState_iff.mp hState with ⟨s, hFound⟩
        have hMember : s ∈ c.stateList :=
          c.mem_stateList_iff.mpr ⟨label, hFound⟩
        rw [hEmpty] at hMember
        cases hMember
  · intro hInitial
    apply List.eq_nil_iff_forall_not_mem.mpr
    intro s hMember
    rcases c.mem_stateList_iff.mp hMember with
      ⟨label, hFound⟩
    have hState : c.hasState label = true :=
      c.hasState_iff.mpr ⟨s, hFound⟩
    exact hWell.started hState hInitial

/- The states in the list are well-formed themselves. -/
theorem of_mem_stateList
    (hWell : c.WellFormed)
    {s : State G A}
    (hMember : s ∈ c.stateList) :
    s.WellFormed := by
  rcases (LabelMap.mem_values_iff _).mp hMember with
    ⟨label, hFound⟩
  exact hWell.attached hFound

/- Edges are listed in ascending order. -/
theorem edges_ascending
    (hWell : c.WellFormed) :
    c.edges.Pairwise EdgeBefore := by
  unfold edges
  rw [List.pairwise_flatMap]
  constructor
  · intro s hMember
    have hState := hWell.of_mem_stateList hMember
    rw [List.pairwise_map]
    exact
      hState.transitions_ascending.imp fun hLess =>
        Or.inr ⟨rfl, hLess⟩
  · apply hWell.stateList_ascending.imp
    intro s s' hLess e hEdge e' hEdge'
    rcases List.mem_map.mp hEdge with ⟨t, _, rfl⟩
    rcases List.mem_map.mp hEdge' with ⟨t', _, rfl⟩
    exact Or.inl hLess

end WellFormed

end Chart

end Statechart
