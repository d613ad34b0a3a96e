import Statechart.Bench.Basic
import Statechart.Chart.Inspection
import Statechart.Rule.Writing

/-
  This file defines what commands do with the charts on a
  bench.

  Key definitions include:
    * `Response`
    * `Bench.onChart`
-/

namespace Statechart

/- An answer, the bench after it, and what was observed. -/
structure Response where
  bench : Bench
  answer : Answer
  trace : List (Happening Condition Script)

namespace Bench

------------------------------------------------------------
-- Quiet Answers
------------------------------------------------------------

/- An answer without any happenings. -/
def answer
    (b : Bench)
    (a : Answer) : Response :=
  ⟨b, a, []⟩

/- Put a chart on the bench and say which number it has. -/
def answerChart
    (b : Bench)
    (c : ScriptedChart) : Response :=
  (b.addChart c).answer (.chartAdded b.charts.length c)

/- Put a chart on the bench if the text could be read. -/
def answerParsed
    (b : Bench)
    (parsed : Except RuleError ScriptedChart) : Response :=
  match parsed with
  | .error e => b.answer (.notRead e)
  | .ok c => b.answerChart c

/- Put a chart on the bench if it could be assembled. -/
def answerAssembled
    (b : Bench)
    (built : Except AssemblyError ScriptedChart) :
    Response :=
  match built with
  | .error e => b.answer (.notAssembled e)
  | .ok c => b.answerChart c

------------------------------------------------------------
-- Building
------------------------------------------------------------

/- Read a text into a chart. -/
def readInto
    (b : Bench)
    (index : Nat)
    (c : ScriptedChart)
    (text : String) : Response :=
  let reading := c.read text
  (b.setChart index reading.chart).answer
    (.reading reading.outcome reading.chart)

/- Replace a chart and show one of its states. -/
def answerState
    (b : Bench)
    (index : Nat)
    (c : ScriptedChart)
    (label : String) : Response :=
  (b.setChart index c).answer
    (.stateIn (c.state? label) c)

/- Replace a chart and show one of its transitions. -/
def answerTransition
    (b : Bench)
    (index : Nat)
    (c : ScriptedChart)
    (state label : String) : Response :=
  (b.setChart index c).answer
    (.transitionOf (c.transition? state label))

/- Copy a transition within a chart. -/
def copyTransition
    (b : Bench)
    (index : Nat)
    (c : ScriptedChart)
    (state label target : String) : Response :=
  match c.copyTransition? state label target with
  | none => b.answer (.transitionOf none)
  | some next => b.answerTransition index next target label

/- Copy a state of another chart. -/
def copyState
    (b : Bench)
    (index : Nat)
    (c origin : ScriptedChart)
    (state : String) : Response :=
  match c.copyState? origin state with
  | none => b.answer (.stateIn none c)
  | some next => b.answerState index next state

/- Designate the initial state of a chart. -/
def designate
    (b : Bench)
    (index : Nat)
    (c : ScriptedChart)
    (label : String) : Response :=
  match c.designate label with
  | .error e => b.answer (.designated (.error e) c)
  | .ok next =>
      (b.setChart index next).answer
        (.designated (.ok ()) next)

------------------------------------------------------------
-- Hooks
------------------------------------------------------------

/- Check a gate with a state of another chart. -/
def checkAgainst
    (b : Bench)
    (t : ScriptedTransition)
    (against : Nat)
    (other : ScriptedChart)
    (state : String) : Response :=
  match t.gate, other.state? state with
  | _, none => b.answer .absent
  | none, some _ => b.answer (.allowed (some true))
  | some gate, some s =>
      let checked :=
        scriptHost.checkWith (b.scene other) gate s
      ⟨b.setScene against checked.scene,
        .allowed (some checked.value), checked.trace⟩

/- Is a transition allowed from a state? -/
def allows
    (b : Bench)
    (c : ScriptedChart)
    (state label : String)
    (against : Nat)
    (againstState : String) : Response :=
  match c.transition? state label, b.charts[against]? with
  | none, _ => b.answer (.allowed none)
  | _, none => b.answer .absent
  | some t, some other =>
      b.checkAgainst t against other againstState

/- The action in a slot and the kind of the slot. -/
def actionIn
    (c : ScriptedChart) :
    ActionSlot → HookKind × Option Script
  | .entry state => (.entry, c.entryOf state)
  | .exit state => (.exit, c.exitOf state)
  | .transition state label =>
      (.transition, c.actionOf state label)

/- Run an action with a state of another chart. -/
def runAction
    (b : Bench)
    (c : ScriptedChart)
    (slot : ActionSlot)
    (against : Nat)
    (state : String) : Response :=
  match actionIn c slot, b.charts[against]? with
  | (_, none), _ => b.answer (.actionRun none)
  | _, none => b.answer .absent
  | (kind, some action), some other =>
      match other.state? state with
      | none => b.answer .absent
      | some s =>
          let ran :=
            scriptHost.runWith (b.scene other) kind action s
          ⟨b.setScene against ran.scene,
            .actionRun (some ran.value), ran.trace⟩

------------------------------------------------------------
-- Comparing
------------------------------------------------------------

/- Do two looked-up states have the same outline? -/
def sameStates :
    Option ScriptedState → Option ScriptedState → Bool
  | none, none => true
  | some s, some t => s.sameOutline t
  | _, _ => false

/- Compare a chart with another one. -/
def compare
    (b : Bench)
    (c : ScriptedChart)
    (other : Nat) : Response :=
  match b.charts[other]? with
  | none => b.answer .absent
  | some d =>
      b.answer
        (.compared (c.sameOutline d) (c.grid == d.grid))

/- Compare a state with a state of another chart. -/
def compareStates
    (b : Bench)
    (c : ScriptedChart)
    (state : String)
    (other : Nat)
    (otherState : String) : Response :=
  match b.charts[other]? with
  | none => b.answer .absent
  | some d =>
      b.answer
        (.statesCompared
          (sameStates (c.state? state)
            (d.state? otherState)))

------------------------------------------------------------
-- Binding
------------------------------------------------------------

/- Bind a machine to a chart. -/
def bind
    (b : Bench)
    (index : Nat)
    (c : ScriptedChart)
    (settings : Settings) : Response :=
  match Machine.bind settings c with
  | .error fault => b.answer (.notBound fault)
  | .ok m =>
      (b.addRunner ⟨index, m⟩).answer
        (.bound b.runners.length m)

------------------------------------------------------------
-- Chart Commands
------------------------------------------------------------

/- Do what is asked of a chart. -/
def onChart
    (b : Bench)
    (index : Nat)
    (c : ScriptedChart) :
    ChartCommand → Response
  | .clone => b.answerChart c
  | .reparse => b.answerParsed (Chart.ofRules c.ruleText)
  | .read text => b.readInto index c text
  | .addState s =>
      b.answerState index (c.addState s) s.label
  | .ensureState label =>
      b.answerState index (c.ensureState label) label
  | .addTransition state t =>
      b.answerTransition index (c.addTransition state t)
        state t.label
  | .copyTransition state label target =>
      b.copyTransition index c state label target
  | .copyState origin state =>
      match b.charts[origin]? with
      | none => b.answer .absent
      | some d => b.copyState index c d state
  | .designate label => b.designate index c label
  | .view => b.answer (.viewed c)
  | .ruleText => b.answer (.ruleText c.ruleText)
  | .dot options => b.answer (.dot (c.dot options))
  | .grid lookups =>
      b.answer
        (.grid c.grid
          (lookups.map fun l =>
            c.grid.destination? l.1 l.2))
  | .inspect => b.answer (.inspected c.inspection)
  | .validate => b.answer (.validated c.validate)
  | .compare other => b.compare c other
  | .compareStates state other otherState =>
      b.compareStates c state other otherState
  | .state label => b.answer (.stateOf (c.state? label))
  | .transition state label =>
      b.answer (.transitionOf (c.transition? state label))
  | .allows state label against againstState =>
      b.allows c state label against againstState
  | .edit e =>
      (b.setChart index (c.edit e)).answer
        (.slotFound (c.hasSlot e))
  | .runAction slot against againstState =>
      b.runAction c slot against againstState
  | .bind settings => b.bind index c settings

end Bench

end Statechart
