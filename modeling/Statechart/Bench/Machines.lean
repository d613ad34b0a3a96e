import Statechart.Bench.Charts
import Statechart.Machine.Walk

/-
  This file defines what commands do with the machines on a
  bench, and with the bench as a whole.

  Key definitions include:
    * `Bench.onMachine`
    * `Bench.step`
    * `Response.events`
-/

namespace Statechart

namespace Bench

------------------------------------------------------------
-- Machine Commands
------------------------------------------------------------

/-
  Perform a transition a number of times; the last result
  counts.
-/
def perform
    (b : Bench)
    (index : Nat)
    (r : Runner)
    (c : ScriptedChart)
    (label : String)
    (times : Nat) : Response :=
  let journey :=
    r.machine.performAll scriptHost (b.scene c)
      (List.replicate times label)
  let after :=
    (b.setScene r.chart journey.scene).setMachine index
      journey.machine
  ⟨after,
    .performed (journey.results.getLast?.getD (.ok ()))
      journey.machine,
    journey.trace⟩

/- Check whether a transition could be performed. -/
def can
    (b : Bench)
    (r : Runner)
    (c : ScriptedChart)
    (label : String) : Response :=
  let asked := r.machine.can scriptHost (b.scene c) label
  ⟨b.setScene r.chart asked.scene,
    .canPerform asked.value r.machine, asked.trace⟩

/- Do what is asked of a machine. -/
def onMachine
    (b : Bench)
    (index : Nat)
    (r : Runner)
    (c : ScriptedChart) :
    MachineCommand → Response
  | .perform label times => b.perform index r c label times
  | .can label => b.can r c label
  | .state labels =>
      b.answer
        (.machineState (labels.map r.machine.isIn)
          (r.machine.currentState? c))
  | .available =>
      b.answer (.available (r.machine.available c))
  | .journal => b.answer (.journal r.machine.journal)
  | .dot => b.answer (.dot (r.machine.dot c))
  | .setLogger name =>
      (b.setMachine index (r.machine.setLogger name)).answer
        .done
  | .clearLogger =>
      (b.setMachine index r.machine.clearLogger).answer .done

------------------------------------------------------------
-- Commands
------------------------------------------------------------

/- Do what is asked of the machine with a given number. -/
def onMachineAt
    (b : Bench)
    (index : Nat)
    (command : MachineCommand) : Response :=
  match b.runners[index]? with
  | none => b.answer .absent
  | some r =>
      match b.charts[r.chart]? with
      | none => b.answer .absent
      | some c => b.onMachine index r c command

/- Do what is asked of the chart with a given number. -/
def onChartAt
    (b : Bench)
    (index : Nat)
    (command : ChartCommand) : Response :=
  match b.charts[index]? with
  | none => b.answer .absent
  | some c => b.onChart index c command

/- Give a variable a value. -/
def setVariable
    (b : Bench)
    (name : String)
    (value : Int) : Bench :=
  { b with vars := b.vars.insert name value }

/- Do what is asked of the bench. -/
def step
    (b : Bench) :
    Command → Response
  | .newChart => b.answerChart .empty
  | .parse text => b.answerParsed (Chart.ofRules text)
  | .fromRules text initial =>
      b.answerAssembled (Chart.ofRulesFrom text initial)
  | .assemble calls =>
      b.answerAssembled (Assembly.ofCalls calls).build
  | .setVariable name value =>
      let after := b.setVariable name value
      after.answer (.listVars after.vars)
  | .listVars => b.answer (.listVars b.vars)
  | .chart index command => b.onChartAt index command
  | .machine index command => b.onMachineAt index command

end Bench

namespace Response

/- What the hosts and loggers of a bench said, in order. -/
def events (r : Response) : List String :=
  r.trace.filterMap Happening.eventText?

end Response

end Statechart
