import Statechart.Chart.Basic

/-
  This file defines the hook slots of a chart. The entry and
  exit actions of states and the gates and actions of
  transitions can be set and cleared at any time, also while
  machines walk the chart. Setting a hook never changes which
  states and transitions there are.

  Key definitions include:
    * `HookEdit`
    * `Chart.edit`
    * `Chart.editAll`
    * `Chart.entryOf`
    * `Chart.exitOf`
    * `Chart.gateOf`
    * `Chart.actionOf`
    * `Chart.hasSlot`
-/

namespace Statechart

------------------------------------------------------------
-- Edits
------------------------------------------------------------

/-
  A hook edit names a slot and the hook that it is to hold;
  `none` clears the slot.
-/
inductive HookEdit (G A : Type) where
  | entry (state : String) (hook : Option A)
  | exit (state : String) (hook : Option A)
  | gate (state transition : String) (hook : Option G)
  | action (state transition : String) (hook : Option A)

namespace Chart

variable {G A : Type}

/- Change a registered state. -/
def modifyState
    (c : Chart G A)
    (state : String)
    (f : State G A → State G A) : Chart G A :=
  { c with states := c.states.modify state f }

/- Change a transition that leaves a registered state. -/
def modifyTransition
    (c : Chart G A)
    (state label : String)
    (f : Transition G A → Transition G A) : Chart G A :=
  c.modifyState state fun s =>
    { s with transitions := s.transitions.modify label f }

/- Apply an edit. An edit of a missing slot does nothing. -/
def edit
    (c : Chart G A) :
    HookEdit G A → Chart G A
  | .entry state hook =>
      c.modifyState state fun s => { s with entry := hook }
  | .exit state hook =>
      c.modifyState state fun s => { s with exit := hook }
  | .gate state label hook =>
      c.modifyTransition state label fun t =>
        { t with gate := hook }
  | .action state label hook =>
      c.modifyTransition state label fun t =>
        { t with action := hook }

/- Apply edits in order. -/
def editAll
    (c : Chart G A)
    (edits : List (HookEdit G A)) : Chart G A :=
  edits.foldl edit c

------------------------------------------------------------
-- Slots
------------------------------------------------------------

/- The entry action of a state, if it has one now. -/
def entryOf
    (c : Chart G A)
    (state : String) : Option A :=
  match c.state? state with
  | none => none
  | some s => s.entry

/- The exit action of a state, if it has one now. -/
def exitOf
    (c : Chart G A)
    (state : String) : Option A :=
  match c.state? state with
  | none => none
  | some s => s.exit

/- The gate of a transition, if it has one now. -/
def gateOf
    (c : Chart G A)
    (state label : String) : Option G :=
  match c.transition? state label with
  | none => none
  | some t => t.gate

/- The action of a transition, if it has one now. -/
def actionOf
    (c : Chart G A)
    (state label : String) : Option A :=
  match c.transition? state label with
  | none => none
  | some t => t.action

/- Does the slot that an edit names exist? -/
def hasSlot
    (c : Chart G A) :
    HookEdit G A → Bool
  | .entry state _ => c.hasState state
  | .exit state _ => c.hasState state
  | .gate state label _ => (c.transition? state label).isSome
  | .action state label _ =>
      (c.transition? state label).isSome

end Chart

end Statechart
