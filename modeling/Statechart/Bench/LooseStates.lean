import Statechart.Bench.Basic

/-
  This file defines how states that belong to no chart are
  put side by side: which of them have the same outline, and
  from which of them their transitions are allowed.

  Key definitions include:
    * `LooseStates.outlineTable`
    * `LooseStates.allowedTable`
-/

namespace Statechart

namespace LooseStates

/- Which states have the same outline as which others? -/
def outlineTable
    (states : List ScriptedState) : List (List Bool) :=
  states.map fun s => states.map s.sameOutline

/- Is a transition allowed from a state? -/
def allowed
    (vars : Variables)
    (t : ScriptedTransition)
    (s : ScriptedState) : Verdict :=
  match t.gate with
  | none => ⟨true, []⟩
  | some gate => gate.eval s vars

/-
  For each state and each of its transitions, what every
  state says to the gate of the transition.
-/
def allowedTable
    (vars : Variables)
    (states : List ScriptedState) :
    List (List (List Verdict)) :=
  states.map fun owner =>
    owner.transitions.values.map fun t =>
      states.map (allowed vars t)

/- What was said while the table was filled, in order. -/
def remarks
    (table : List (List (List Verdict))) : List String :=
  table.flatten.flatten.flatMap Verdict.notes

end LooseStates

end Statechart
