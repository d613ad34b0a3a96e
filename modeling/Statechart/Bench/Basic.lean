import Statechart.Chart.Assembly
import Statechart.Grid
import Statechart.Machine.Basic
import Statechart.Script.Basic

/-
  This file defines benches: places where scripted charts are
  built and machines walk them. Charts and machines are
  numbered from zero in the order in which they were made,
  and all of them share one set of variables.

  Commands say what to do on a bench, answers say what came
  of it.

  Key definitions include:
    * `Bench`
    * `ChartCommand`
    * `MachineCommand`
    * `Command`
    * `Answer`
-/

namespace Statechart

------------------------------------------------------------
-- Benches
------------------------------------------------------------

/- A machine and the number of the chart that it walks. -/
structure Runner where
  chart : Nat
  machine : Machine

/- Charts, machines and variables. -/
structure Bench where
  charts : List ScriptedChart
  runners : List Runner
  vars : Variables

namespace Bench

/- The bench with nothing on it. -/
def empty : Bench where
  charts := []
  runners := []
  vars := .empty

/- Put another chart on the bench. -/
def addChart
    (b : Bench)
    (c : ScriptedChart) : Bench :=
  { b with charts := b.charts ++ [c] }

/- Replace the chart with a given number. -/
def setChart
    (b : Bench)
    (index : Nat)
    (c : ScriptedChart) : Bench :=
  { b with charts := b.charts.set index c }

/- Put another machine on the bench. -/
def addRunner
    (b : Bench)
    (r : Runner) : Bench :=
  { b with runners := b.runners ++ [r] }

/- Replace the machine with a given number. -/
def setMachine
    (b : Bench)
    (index : Nat)
    (m : Machine) : Bench :=
  { b with
    runners :=
      b.runners.modify index fun r =>
        { r with machine := m } }

/- A chart as the scene of its machines. -/
def scene
    (b : Bench)
    (c : ScriptedChart) :
    Scene Condition Script Variables where
  chart := c
  world := b.vars

/- Take over the scene that a chart is left in. -/
def setScene
    (b : Bench)
    (index : Nat)
    (s : Scene Condition Script Variables) : Bench :=
  { b.setChart index s.chart with vars := s.world }

end Bench

------------------------------------------------------------
-- Commands
------------------------------------------------------------

/- Where an action is kept. -/
inductive ActionSlot where
  | entry (state : String)
  | exit (state : String)
  | transition (state label : String)

/- What can be asked of a chart. -/
inductive ChartCommand where
  | clone
  | reparse
  | read (text : String)
  | addState (s : ScriptedState)
  | ensureState (label : String)
  | addTransition
      (state : String)
      (t : ScriptedTransition)
  | copyTransition (state label target : String)
  | copyState (origin : Nat) (state : String)
  | designate (label : String)
  | view
  | ruleText
  | dot (options : Dot.Options)
  | grid (lookups : List (String × String))
  | inspect
  | validate
  | compare (other : Nat)
  | compareStates
      (state : String)
      (other : Nat)
      (otherState : String)
  | state (label : String)
  | transition (state label : String)
  | allows
      (state label : String)
      (against : Nat)
      (againstState : String)
  | edit (e : HookEdit Condition Script)
  | runAction
      (slot : ActionSlot)
      (against : Nat)
      (againstState : String)
  | bind (settings : Settings)

/- What can be asked of a machine. -/
inductive MachineCommand where
  | perform (label : String) (times : Nat)
  | can (label : String)
  | state (labels : List String)
  | available
  | journal
  | dot
  | setLogger (name : String)
  | clearLogger

/- What can be asked of a bench. -/
inductive Command where
  | newChart
  | parse (text : String)
  | fromRules (text initial : String)
  | assemble (calls : List Assembly.Call)
  | setVariable (name : String) (value : Int)
  | listVars
  | chart (index : Nat) (command : ChartCommand)
  | machine (index : Nat) (command : MachineCommand)

------------------------------------------------------------
-- Answers
------------------------------------------------------------

/- What comes of a command. -/
inductive Answer where
  | done
  | absent
  | chartAdded (index : Nat) (c : ScriptedChart)
  | notRead (e : RuleError)
  | notAssembled (e : AssemblyError)
  | reading (outcome : Except RuleError Nat)
      (after : ScriptedChart)
  | stateOf (s : Option ScriptedState)
  | stateIn
      (s : Option ScriptedState)
      (after : ScriptedChart)
  | transitionOf (t : Option ScriptedTransition)
  | designated
      (outcome : Except ChartError Unit)
      (after : ScriptedChart)
  | viewed (c : ScriptedChart)
  | ruleText (text : String)
  | dot (text : String)
  | grid (g : Grid) (lookups : List (Option String))
  | inspected (text : String)
  | validated (outcome : Except ChartError Unit)
  | compared (charts grids : Bool)
  | statesCompared (equal : Bool)
  | allowed (verdict : Option Bool)
  | slotFound (found : Bool)
  | actionRun (outcome : Option (Except String Unit))
  | listVars (vars : Variables)
  | bound (index : Nat) (m : Machine)
  | notBound (fault : Fault)
  | performed (result : Except Fault Unit) (m : Machine)
  | canPerform (result : Except Fault Bool) (m : Machine)
  | machineState
      (isIn : List Bool)
      (s : Option ScriptedState)
  | available (labels : List String)
  | journal (j : Journal)

end Statechart
