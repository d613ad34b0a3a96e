import Statechart.LabelMap.Basic

/-
  This file defines charts: finite sets of labelled states,
  each of which owns the labelled transitions that leave it,
  together with an initial state.

  Gates and actions are opaque to a chart. A gate of type
  `G` guards a transition, an action of type `A` is run when
  a state is left or entered or when a transition is taken.
  What they do is up to the host that interprets them.

  Key definitions include:
    * `Transition`
    * `State`
    * `Chart`
    * `Chart.state?`
    * `Chart.transition?`
    * `Chart.initialState?`
    * `State.outline`
    * `Chart.outline`
    * `Chart.sameOutline`
-/

namespace Statechart

------------------------------------------------------------
-- Transitions
------------------------------------------------------------

/-
  A transition carries its label, the label of the state it
  leaves once it is attached to one, and the label of the
  state it enters.
-/
structure Transition (G A : Type) where
  label : String
  source : Option String
  destination : String
  gate : Option G
  action : Option A
deriving Inhabited

namespace Transition

variable {G A : Type}

/- An unattached transition without gate and action. -/
def plain
    (label destination : String) : Transition G A where
  label := label
  source := none
  destination := destination
  gate := none
  action := none

/- Guard a transition. -/
def guarded
    (t : Transition G A)
    (gate : G) : Transition G A :=
  { t with gate := some gate }

/- Give a transition an action. -/
def acting
    (t : Transition G A)
    (action : A) : Transition G A :=
  { t with action := some action }

/- The name of a transition in texts for people. -/
def display (t : Transition G A) : String :=
  "Transition(" ++ t.label ++ ")"

end Transition

------------------------------------------------------------
-- States
------------------------------------------------------------

/-
  A state carries its label, the transitions that leave it,
  and the actions for entering and leaving it.
-/
structure State (G A : Type) where
  label : String
  transitions : LabelMap (Transition G A)
  entry : Option A
  exit : Option A
deriving Inhabited

namespace State

variable {G A : Type}

/- A state without transitions and actions. -/
def plain (label : String) : State G A where
  label := label
  transitions := .empty
  entry := none
  exit := none

/- The transition with a given label, if it leaves. -/
def transition?
    (s : State G A)
    (label : String) : Option (Transition G A) :=
  s.transitions.get? label

/- The labels of the leaving transitions, ascending. -/
def transitionLabels
    (s : State G A) : List String :=
  s.transitions.keys

/-
  Attach a transition. Its source becomes this state, and
  it replaces a transition with the same label.
-/
def attach
    (s : State G A)
    (t : Transition G A) : State G A :=
  { s with
    transitions :=
      s.transitions.insert t.label
        { t with source := some s.label } }

/- Attach several transitions in order. -/
def attachAll
    (s : State G A)
    (ts : List (Transition G A)) : State G A :=
  ts.foldl attach s

/- The name of a state in texts for people. -/
def display (s : State G A) : String :=
  "State(" ++ s.label ++ ")"

/-
  The outline of a state: its label and the labels of its
  transitions. Destinations, gates and actions are left out.
-/
def outline
    (s : State G A) : String × List String :=
  (s.label, s.transitionLabels)

/- Do two states have the same outline? -/
def sameOutline
    (s t : State G A) : Bool :=
  s.outline == t.outline

end State

------------------------------------------------------------
-- Charts
------------------------------------------------------------

/-
  A chart is a map of states together with the label of the
  initial state, if one is designated.
-/
structure Chart (G A : Type) where
  states : LabelMap (State G A)
  initial : Option String

namespace Chart

variable {G A : Type}

/- The chart without states. -/
def empty : Chart G A where
  states := .empty
  initial := none

instance : Inhabited (Chart G A) :=
  ⟨empty⟩

/- The state registered under a label, if any. -/
def state?
    (c : Chart G A)
    (label : String) : Option (State G A) :=
  c.states.get? label

/- Is a state registered under this label? -/
def hasState
    (c : Chart G A)
    (label : String) : Bool :=
  c.states.contains label

/- The transition with a label that leaves a state. -/
def transition?
    (c : Chart G A)
    (state label : String) :
    Option (Transition G A) :=
  match c.state? state with
  | none => none
  | some s => s.transition? label

/- All states in ascending label order. -/
def stateList (c : Chart G A) : List (State G A) :=
  c.states.values

/- The number of states. -/
def size (c : Chart G A) : Nat :=
  c.states.size

/- The registered initial state, if there is one. -/
def initialState?
    (c : Chart G A) : Option (State G A) :=
  match c.initial with
  | none => none
  | some label => c.state? label

/-
  The outline of a chart: its initial label and, for each
  state, the outline of the state.
-/
def outline
    (c : Chart G A) :
    Option String ×
      List (String × String × List String) :=
  (c.initial,
    c.states.entries.map fun e => (e.1, e.2.outline))

/-
  Do two charts have the same outline? Destinations, gates
  and actions are free to differ.
-/
def sameOutline
    (c d : Chart G A) : Bool :=
  c.outline == d.outline

end Chart

end Statechart
