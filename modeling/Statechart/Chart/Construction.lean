import Statechart.Chart.Basic

/-
  This file defines the operations that build charts. States
  are only ever added or replaced, never removed, and the
  first state of a chart becomes its initial state unless
  another one is designated.

  Key definitions include:
    * `ChartError`
    * `Chart.addState`
    * `Chart.ensureState`
    * `Chart.addTransition`
    * `Chart.connect`
    * `Chart.designate`
    * `Chart.copyTransition?`
    * `Chart.copyState?`
-/

namespace Statechart

------------------------------------------------------------
-- Errors
------------------------------------------------------------

/-
  What can be wrong with a chart or with a label that is
  meant for it.
-/
inductive ChartError where
  | unknownState (label : String)
  | danglingTransition
      (state transition destination : String)
deriving DecidableEq, Repr

namespace ChartError

/- The text of an error. -/
def message : ChartError → String
  | unknownState label =>
      "unknown state '" ++ label ++ "'"
  | danglingTransition state transition destination =>
      "transition '" ++ transition ++ "' from '" ++ state ++
        "' leads to unregistered state '" ++ destination ++
        "'"

end ChartError

namespace Chart

variable {G A : Type}

------------------------------------------------------------
-- Adding States
------------------------------------------------------------

/- The initial label once some state is registered. -/
def initialOr
    (c : Chart G A)
    (label : String) : Option String :=
  match c.initial with
  | none => some label
  | some designated => some designated

/-
  Register a state, replacing a state with the same label.
  The state becomes initial if no state was.
-/
def addState
    (c : Chart G A)
    (s : State G A) : Chart G A where
  states := c.states.insert s.label s
  initial := c.initialOr s.label

/-
  Register an empty state under a label unless the label is
  taken already.
-/
def ensureState
    (c : Chart G A)
    (label : String) : Chart G A :=
  if c.hasState label then
    c
  else
    c.addState (State.plain label)

------------------------------------------------------------
-- Adding Transitions
------------------------------------------------------------

/-
  Attach a transition to a registered state. A chart without
  that state stays as it is.
-/
def addTransition
    (c : Chart G A)
    (state : String)
    (t : Transition G A) : Chart G A :=
  { c with
    states := c.states.modify state (State.attach · t) }

/-
  Register both ends of an edge, source first, and attach a
  plain transition that leads from one to the other.
-/
def connect
    (c : Chart G A)
    (source destination label : String) : Chart G A :=
  let both :=
    (c.ensureState source).ensureState destination
  both.addTransition source
    (Transition.plain label destination)

------------------------------------------------------------
-- Designating the Initial State
------------------------------------------------------------

/- Make a registered state the initial state. -/
def designate
    (c : Chart G A)
    (label : String) : Except ChartError (Chart G A) :=
  if c.hasState label then
    .ok { c with initial := some label }
  else
    .error (.unknownState label)

------------------------------------------------------------
-- Copies
------------------------------------------------------------

/-
  Attach a copy of a transition, hooks included, to another
  state. There is no result unless both the transition and
  the other state exist.
-/
def copyTransition?
    (c : Chart G A)
    (state label target : String) :
    Option (Chart G A) :=
  match c.transition? state label with
  | none => none
  | some t =>
      if c.hasState target then
        some (c.addTransition target t)
      else
        none

/-
  Register a copy of a state of another chart, hooks
  included. There is no result unless that state exists.
-/
def copyState?
    (c : Chart G A)
    (origin : Chart G A)
    (label : String) : Option (Chart G A) :=
  match origin.state? label with
  | none => none
  | some s => some (c.addState s)

end Chart

end Statechart
