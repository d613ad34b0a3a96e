import Statechart.Proofs.Chart.Closed

/-
  This file lists the hooks that a chart has at a time. What
  a slot holds is one of them.

  Key definitions include:
    * `Chart.gates`
    * `Chart.actions`
    * `Chart.Ungated`

  Key theorems include:
    * `Chart.gateOf_eq`
    * `Chart.mem_gates_of_gateOf`
    * `Chart.mem_actions_of_entryOf`
    * `Chart.mem_actions_of_exitOf`
    * `Chart.mem_actions_of_actionOf`
-/

namespace Statechart

namespace Chart

variable {G A : Type}
variable {c : Chart G A}

/- The gates of all transitions. -/
def gates (c : Chart G A) : List G :=
  c.edges.filterMap fun e => e.2.gate

/- The actions of all states and of all transitions. -/
def actions (c : Chart G A) : List A :=
  c.stateList.filterMap State.entry ++
    c.stateList.filterMap State.exit ++
    c.edges.filterMap fun e => e.2.action

/- No transition has a gate. -/
def Ungated (c : Chart G A) : Prop :=
  c.gates = []

------------------------------------------------------------
-- Slots
------------------------------------------------------------

theorem entryOf_eq
    (c : Chart G A)
    (state : String) :
    c.entryOf state = (c.state? state).bind State.entry := by
  unfold entryOf
  cases c.state? state <;> rfl

theorem exitOf_eq
    (c : Chart G A)
    (state : String) :
    c.exitOf state = (c.state? state).bind State.exit := by
  unfold exitOf
  cases c.state? state <;> rfl

theorem gateOf_eq
    (c : Chart G A)
    (state label : String) :
    c.gateOf state label =
      (c.transition? state label).bind Transition.gate := by
  unfold gateOf
  cases c.transition? state label <;> rfl

theorem actionOf_eq
    (c : Chart G A)
    (state label : String) :
    c.actionOf state label =
      (c.transition? state label).bind
        Transition.action := by
  unfold actionOf
  cases c.transition? state label <;> rfl

------------------------------------------------------------
-- Listed Hooks
------------------------------------------------------------

/- A transition that is found is on the list of edges. -/
theorem mem_edges_of_transition?
    {state label : String}
    {t : Transition G A}
    (hFound : c.transition? state label = some t) :
    ∃ s, (s, t) ∈ c.edges := by
  rcases c.transition?_eq_some_iff.mp hFound with
    ⟨s, hState, hTransition⟩
  exact
    ⟨s,
      c.mem_edges_iff.mpr
        ⟨state, label, hState, hTransition⟩⟩

theorem mem_gates_of_gateOf
    {state label : String}
    {gate : G}
    (hGate : c.gateOf state label = some gate) :
    gate ∈ c.gates := by
  rw [gateOf_eq] at hGate
  rcases Option.bind_eq_some_iff.mp hGate with
    ⟨t, hFound, hHeld⟩
  rcases mem_edges_of_transition? hFound with ⟨s, hEdge⟩
  exact List.mem_filterMap.mpr ⟨(s, t), hEdge, hHeld⟩

theorem mem_actions_of_actionOf
    {state label : String}
    {action : A}
    (hAction : c.actionOf state label = some action) :
    action ∈ c.actions := by
  rw [actionOf_eq] at hAction
  rcases Option.bind_eq_some_iff.mp hAction with
    ⟨t, hFound, hHeld⟩
  rcases mem_edges_of_transition? hFound with ⟨s, hEdge⟩
  apply List.mem_append_right
  exact List.mem_filterMap.mpr ⟨(s, t), hEdge, hHeld⟩

theorem mem_actions_of_entryOf
    {state : String}
    {action : A}
    (hEntry : c.entryOf state = some action) :
    action ∈ c.actions := by
  rw [entryOf_eq] at hEntry
  rcases Option.bind_eq_some_iff.mp hEntry with
    ⟨s, hFound, hHeld⟩
  have hMember : s ∈ c.stateList :=
    c.mem_stateList_iff.mpr ⟨state, hFound⟩
  apply List.mem_append_left
  apply List.mem_append_left
  exact List.mem_filterMap.mpr ⟨s, hMember, hHeld⟩

theorem mem_actions_of_exitOf
    {state : String}
    {action : A}
    (hExit : c.exitOf state = some action) :
    action ∈ c.actions := by
  rw [exitOf_eq] at hExit
  rcases Option.bind_eq_some_iff.mp hExit with
    ⟨s, hFound, hHeld⟩
  have hMember : s ∈ c.stateList :=
    c.mem_stateList_iff.mpr ⟨state, hFound⟩
  apply List.mem_append_left
  apply List.mem_append_right
  exact List.mem_filterMap.mpr ⟨s, hMember, hHeld⟩

theorem Ungated.gateOf_eq_none
    (hUngated : c.Ungated)
    (state label : String) :
    c.gateOf state label = none := by
  cases hGate : c.gateOf state label with
  | none => rfl
  | some gate =>
      have hMember := mem_gates_of_gateOf hGate
      rw [hUngated] at hMember
      cases hMember

end Chart

end Statechart
