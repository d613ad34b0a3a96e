import Statechart.Machine.Host

/-
  This file defines a small language for hooks. Conditions
  serve as gates and scripts as actions. They see the state
  they are called with and a set of integer variables, which
  are zero until something is added to them.

  A script may change variables, say something, fail, and set
  or clear the hooks of the state it is called with and of
  the transitions that leave this state.

  Key definitions include:
    * `Condition`
    * `Effect`
    * `Variables`
    * `Condition.eval`
    * `Effect.run`
    * `scriptHost`
-/

namespace Statechart

------------------------------------------------------------
-- Syntax Trees
------------------------------------------------------------

/- A test of a state. -/
inductive Condition where
  | const (value : Bool)
  | isState (label : String)
  | startsWith (text : String)
  | leavingAtLeast (count : Int)
  | hasTransition (label : String)
  | atLeast (variableName : String) (bound : Int)
  | not (condition : Condition)
  | all (conditions : List Condition)
  | any (conditions : List Condition)
  | log (text : String) (condition : Condition)
deriving Inhabited

/- An effect of a script. -/
inductive Effect where
  | log (text : String)
  | add (variableName : String) (amount : Int)
  | fail (cause : String)
  | when (condition : Condition) (script : List Effect)
  | setEntry (hook : Option (List Effect))
  | setExit (hook : Option (List Effect))
  | setGate
      (transition : String)
      (hook : Option Condition)
  | setAction
      (transition : String)
      (hook : Option (List Effect))
deriving Inhabited

/- A script is a list of effects. -/
abbrev Script := List Effect

/- States, transitions and charts with scripted hooks. -/
abbrev ScriptedState := State Condition Script

abbrev ScriptedTransition := Transition Condition Script

abbrev ScriptedChart := Chart Condition Script

------------------------------------------------------------
-- Variables
------------------------------------------------------------

/- The variables that were given a value so far. -/
abbrev Variables := LabelMap Int

namespace Variables

/- The value of a variable. -/
def value
    (vars : Variables)
    (name : String) : Int :=
  (vars.get? name).getD 0

/- Add an amount to a variable. -/
def add
    (vars : Variables)
    (name : String)
    (amount : Int) : Variables :=
  vars.insert name (vars.value name + amount)

end Variables

------------------------------------------------------------
-- Conditions
------------------------------------------------------------

/- A text that is said about a state. -/
def remark
    (text : String)
    (s : ScriptedState) : String :=
  text ++ "@" ++ s.label

/- A verdict and what was said on the way to it. -/
structure Verdict where
  value : Bool
  notes : List String

namespace Condition

mutual

/- Test a state. -/
def eval
    (s : ScriptedState)
    (vars : Variables) :
    Condition → Verdict
  | .const value => ⟨value, []⟩
  | .isState label => ⟨s.label == label, []⟩
  | .startsWith text =>
      ⟨text.toList.isPrefixOf s.label.toList, []⟩
  | .leavingAtLeast count =>
      ⟨decide (count ≤ (s.transitions.size : Int)), []⟩
  | .hasTransition label =>
      ⟨s.transitions.contains label, []⟩
  | .atLeast name bound =>
      ⟨decide (bound ≤ vars.value name), []⟩
  | .not condition =>
      let verdict := condition.eval s vars
      ⟨!verdict.value, verdict.notes⟩
  | .all conditions => evalAll s vars conditions
  | .any conditions => evalAny s vars conditions
  | .log text condition =>
      let verdict := condition.eval s vars
      ⟨verdict.value,
        ("gate " ++ remark text s) :: verdict.notes⟩

/- Test until the first condition that does not hold. -/
def evalAll
    (s : ScriptedState)
    (vars : Variables) :
    List Condition → Verdict
  | [] => ⟨true, []⟩
  | condition :: rest =>
      let first := condition.eval s vars
      if first.value then
        let others := evalAll s vars rest
        ⟨others.value, first.notes ++ others.notes⟩
      else
        first

/- Test until the first condition that holds. -/
def evalAny
    (s : ScriptedState)
    (vars : Variables) :
    List Condition → Verdict
  | [] => ⟨false, []⟩
  | condition :: rest =>
      let first := condition.eval s vars
      if first.value then
        first
      else
        let others := evalAny s vars rest
        ⟨others.value, first.notes ++ others.notes⟩

end

end Condition

------------------------------------------------------------
-- Scripts
------------------------------------------------------------

/-
  What a script has done so far: the variables, the hooks it
  set and cleared, what it said, and why it failed if it did.
-/
structure Progress where
  vars : Variables
  edits : List (HookEdit Condition Script)
  notes : List String
  failure : Option String

namespace Progress

/- Nothing is done yet. -/
def start (vars : Variables) : Progress where
  vars := vars
  edits := []
  notes := []
  failure := none

/- Say something. -/
def say
    (p : Progress)
    (texts : List String) : Progress :=
  { p with notes := p.notes ++ texts }

/- Set or clear a hook. -/
def edit
    (p : Progress)
    (e : HookEdit Condition Script) : Progress :=
  { p with edits := p.edits ++ [e] }

/-
  Set or clear a hook of a transition, or say that the state
  has no such transition.
-/
def editTransition
    (p : Progress)
    (s : ScriptedState)
    (label : String)
    (e : HookEdit Condition Script) : Progress :=
  if s.transitions.contains label then
    p.edit e
  else
    p.say ["missing " ++ remark label s]

end Progress

namespace Effect

mutual

/- Carry out an effect. -/
def run
    (s : ScriptedState) :
    Effect → Progress → Progress
  | .log text, p => p.say [remark text s]
  | .add name amount, p =>
      { p with vars := p.vars.add name amount }
  | .fail cause, p => { p with failure := some cause }
  | .when condition script, p =>
      let verdict := condition.eval s p.vars
      let told := p.say verdict.notes
      if verdict.value then
        runAll s script told
      else
        told
  | .setEntry hook, p => p.edit (.entry s.label hook)
  | .setExit hook, p => p.edit (.exit s.label hook)
  | .setGate label hook, p =>
      p.editTransition s label (.gate s.label label hook)
  | .setAction label hook, p =>
      p.editTransition s label (.action s.label label hook)

/- Carry out effects in order until one fails. -/
def runAll
    (s : ScriptedState) :
    List Effect → Progress → Progress
  | [], p => p
  | effect :: rest, p =>
      let next := effect.run s p
      if next.failure.isSome then
        next
      else
        runAll s rest next

end

end Effect

------------------------------------------------------------
-- The Host
------------------------------------------------------------

/-
  The host of scripted charts. Its world is the variables; it
  has no clock.
-/
def scriptHost : Host Condition Script Variables where
  check condition _ s vars :=
    let verdict := condition.eval s vars
    { value := verdict.value
      world := vars
      edits := []
      notes := verdict.notes }
  run script _ s vars :=
    let done := Effect.runAll s script (.start vars)
    { value :=
        match done.failure with
        | none => .ok ()
        | some cause => .error cause
      world := done.vars
      edits := done.edits
      notes := done.notes }
  clock _ := ⟨0, 0⟩

end Statechart
