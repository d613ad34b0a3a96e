import Statechart.Chart.Construction

/-
  This file defines dangling transitions: transitions whose
  destination is not a registered state. A chart without
  dangling transitions is called closed; only closed charts
  can be walked by a machine.

  Key definitions include:
    * `Chart.edges`
    * `Chart.firstDangling?`
    * `Chart.validate`
-/

namespace Statechart

namespace Chart

variable {G A : Type}

------------------------------------------------------------
-- Edges
------------------------------------------------------------

/-
  All transitions of a chart with the states that own them,
  by ascending state label and then by ascending transition
  label.
-/
def edges
    (c : Chart G A) :
    List (State G A × Transition G A) :=
  c.stateList.flatMap fun s =>
    s.transitions.values.map fun t => (s, t)

------------------------------------------------------------
-- Validation
------------------------------------------------------------

/- The first edge that leads to no registered state. -/
def firstDangling?
    (c : Chart G A) :
    Option (State G A × Transition G A) :=
  c.edges.find? fun e => !c.hasState e.2.destination

/- Check that every transition leads to a registered state. -/
def validate (c : Chart G A) : Except ChartError Unit :=
  match c.firstDangling? with
  | none => .ok ()
  | some (s, t) =>
      .error
        (.danglingTransition s.label t.label t.destination)

end Chart

end Statechart
