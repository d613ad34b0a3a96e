import Statechart.Chart.Dangling
import Statechart.Proofs.Chart.Lookup
import Statechart.Proofs.Chart.Topology

/-
  This file states which edges a chart has, and that the
  validation of a chart decides whether it is closed: every
  transition leads to a registered state.

  Key definitions include:
    * `Chart.Closed`

  Key theorems include:
    * `Chart.mem_edges_iff`
    * `Chart.validate_eq_ok_iff`
    * `Chart.Closed.of_sameTopology`
-/

namespace Statechart

namespace Chart

variable {G A : Type}

/- Every transition leads to a registered state. -/
def Closed (c : Chart G A) : Prop :=
  ∀ state label t,
    c.transition? state label = some t →
      c.hasState t.destination = true

theorem mem_stateList_iff
    (c : Chart G A)
    {s : State G A} :
    s ∈ c.stateList ↔
      ∃ label, c.state? label = some s :=
  LabelMap.mem_values_iff _

/- The edges are the transitions of registered states. -/
theorem mem_edges_iff
    (c : Chart G A)
    {s : State G A}
    {t : Transition G A} :
    (s, t) ∈ c.edges ↔
      ∃ state label,
        c.state? state = some s ∧
          s.transition? label = some t := by
  unfold edges
  rw [List.mem_flatMap]
  constructor
  · rintro ⟨s', hState, hEdge⟩
    rcases List.mem_map.mp hEdge with ⟨t', hMem, hEq⟩
    cases hEq
    rcases c.mem_stateList_iff.mp hState with
      ⟨state, hFound⟩
    rcases s.transitions.mem_values_iff.mp hMem with
      ⟨label, hTransition⟩
    exact ⟨state, label, hFound, hTransition⟩
  · rintro ⟨state, label, hFound, hTransition⟩
    refine ⟨s, c.mem_stateList_iff.mpr ⟨state, hFound⟩, ?_⟩
    refine List.mem_map.mpr ⟨t, ?_, rfl⟩
    exact s.transitions.mem_values_iff.mpr
      ⟨label, hTransition⟩

/- Validation accepts exactly the closed charts. -/
theorem validate_eq_ok_iff
    (c : Chart G A) :
    c.validate = .ok () ↔ c.Closed := by
  have hNone :
      c.firstDangling? = none ↔ c.Closed := by
    unfold firstDangling?
    rw [List.find?_eq_none]
    constructor
    · intro hAll state label t hFound
      rcases c.transition?_eq_some_iff.mp hFound with
        ⟨s, hState, hTransition⟩
      have hEdge : (s, t) ∈ c.edges :=
        c.mem_edges_iff.mpr
          ⟨state, label, hState, hTransition⟩
      simpa using hAll (s, t) hEdge
    · rintro hClosed ⟨s, t⟩ hEdge
      rcases c.mem_edges_iff.mp hEdge with
        ⟨state, label, hState, hTransition⟩
      have hFound : c.transition? state label = some t :=
        c.transition?_eq_some_iff.mpr
          ⟨s, hState, hTransition⟩
      simpa using hClosed state label t hFound
  rw [← hNone]
  unfold validate
  cases c.firstDangling? <;> simp

theorem Closed.of_sameTopology
    {c d : Chart G A}
    (hClosed : c.Closed)
    (hSame : d.SameTopology c) :
    d.Closed := by
  rw [← validate_eq_ok_iff] at hClosed ⊢
  rw [hSame.validate_eq]
  exact hClosed

end Chart

end Statechart
