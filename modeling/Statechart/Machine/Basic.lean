import Statechart.Chart.Dangling
import Statechart.Dot.Drawing
import Statechart.Journal.Basic
import Statechart.Machine.Host
import Statechart.Machine.Settings

/-
  This file defines machines: cursors that walk a chart. A
  machine holds the label of its current state, its settings,
  its journal and the name of its logger. It does not hold
  the chart, so any number of machines can share one.

  Key definitions include:
    * `Fault`
    * `Machine`
    * `Machine.bind`
    * `Machine.available`
    * `Machine.isIn`
    * `Machine.dot`
-/

namespace Statechart

------------------------------------------------------------
-- Faults
------------------------------------------------------------

/- What can go wrong with a machine. -/
inductive Fault where
  | noTransition (state transition : String)
  | closedGate (state transition : String)
  | noInitialState
  | chart (error : ChartError)
  | failedAction
      (kind : HookKind)
      (state cause : String)
deriving DecidableEq, Repr

namespace Fault

/- The text of a fault. -/
def message : Fault → String
  | noTransition state transition =>
      "no transition '" ++ transition ++
        "' from state '" ++ state ++ "'"
  | closedGate state transition =>
      "gate rejected transition '" ++ transition ++
        "' from state '" ++ state ++ "'"
  | noInitialState =>
      "definition has no initial state"
  | chart error => error.message
  | failedAction kind state _ =>
      kind.name ++ " action failed in state '" ++ state ++
        "'"

/- The code of a fault. -/
def code : Fault → String
  | noTransition _ _ => "NO_TRANSITION"
  | closedGate _ _ => "CANNOT_PERFORM_TRANSITION"
  | noInitialState => "NO_INITIAL_STATE"
  | chart (.unknownState _) => "UNKNOWN_STATE"
  | chart (.danglingTransition _ _ _) =>
      "DANGLING_TRANSITION"
  | failedAction _ _ _ => "ACTION_FAILED"

/-
  After a recoverable fault the machine is as it was, and
  another transition can be tried.
-/
def isRecoverable : Fault → Bool
  | noTransition _ _ => true
  | closedGate _ _ => true
  | _ => false

/- The reason that a failing action gave. -/
def cause? : Fault → Option String
  | failedAction _ _ cause => some cause
  | _ => none

end Fault

------------------------------------------------------------
-- Machines
------------------------------------------------------------

/- A cursor that walks a chart. -/
structure Machine where
  current : String
  settings : Settings
  journal : Journal
  logger : Option String
deriving DecidableEq, Repr

namespace Machine

variable {G A : Type}

/- A machine in a given state that has not moved yet. -/
def start
    (settings : Settings)
    (current : String) : Machine where
  current := current
  settings := settings
  journal := .empty settings.journalLimit
  logger := none

/-
  Bind a machine to a chart, in the initial state. The chart
  has to be closed, and it has to have an initial state.
-/
def bind
    (settings : Settings)
    (c : Chart G A) : Except Fault Machine :=
  match c.validate with
  | .error e => .error (.chart e)
  | .ok () =>
      match c.initialState? with
      | none => .error .noInitialState
      | some s => .ok (start settings s.label)

/- Send the lines about attempts to a logger. -/
def setLogger
    (m : Machine)
    (logger : String) : Machine :=
  { m with logger := some logger }

/- Stop sending lines about attempts. -/
def clearLogger (m : Machine) : Machine :=
  { m with logger := none }

/- Is this the current state? -/
def isIn
    (m : Machine)
    (label : String) : Bool :=
  m.current == label

/- The current state. -/
def currentState?
    (m : Machine)
    (c : Chart G A) : Option (State G A) :=
  c.state? m.current

/- The labels of the transitions from the current state. -/
def available
    (m : Machine)
    (c : Chart G A) : List String :=
  match m.currentState? c with
  | none => []
  | some s => s.transitionLabels

/- The chart as a drawing, with the current state marked. -/
def dot
    (m : Machine)
    (c : Chart G A) : String :=
  c.dot
    { direction := none
      highlight := some m.current }

end Machine

end Statechart
