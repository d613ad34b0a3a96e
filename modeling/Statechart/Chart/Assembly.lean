import Statechart.Rule.Reading

/-
  This file defines assemblies: plans for charts that list
  states, transitions and rule texts. The parts are put
  together in order, so the first state that is mentioned
  becomes initial unless the assembly names another one.

  Key definitions include:
    * `Assembly`
    * `Assembly.Call`
    * `Assembly.ofCalls`
    * `AssemblyError`
    * `Assembly.build`
    * `Chart.ofRulesFrom`
-/

namespace Statechart

------------------------------------------------------------
-- Plans
------------------------------------------------------------

namespace Assembly

/- A part of a chart. -/
inductive Part where
  | state (label : String)
  | transition (origin label target : String)
  | rules (text : String)
deriving DecidableEq, Repr

end Assembly

/- The parts of a chart and the state to start in. -/
structure Assembly where
  parts : List Assembly.Part
  initial : Option String
deriving DecidableEq, Repr

namespace Assembly

/- The assembly without parts. -/
def empty : Assembly where
  parts := []
  initial := none

/- What can be asked of an assembly while it is planned. -/
inductive Call where
  | part (p : Part)
  | initial (label : String)
deriving DecidableEq, Repr

/- Follow a call. The last initial state that is named wins. -/
def follow
    (a : Assembly) :
    Call → Assembly
  | .part p => { a with parts := a.parts ++ [p] }
  | .initial label => { a with initial := some label }

/- The assembly that a list of calls plans. -/
def ofCalls (calls : List Call) : Assembly :=
  calls.foldl follow empty

end Assembly

------------------------------------------------------------
-- Errors
------------------------------------------------------------

/- Why an assembly gives no chart. -/
inductive AssemblyError where
  | rule (error : RuleError)
  | noStates
  | unknownInitial (label : String)
deriving DecidableEq, Repr

namespace AssemblyError

/- The text of an error. -/
def message : AssemblyError → String
  | rule error => error.message
  | noStates =>
      "No states defined. Add a state, a transition or a rule"
  | unknownInitial label =>
      "Initial state '" ++ label ++
        "' is not part of the definition"

end AssemblyError

------------------------------------------------------------
-- Building
------------------------------------------------------------

namespace Assembly

variable {G A : Type}

/- Add a part to a chart. -/
def addPart
    (c : Chart G A) :
    Part → Except AssemblyError (Chart G A)
  | .state label => .ok (c.ensureState label)
  | .transition origin label target =>
      .ok (c.connect origin target label)
  | .rules text =>
      let reading := c.read text
      match reading.outcome with
      | .error e => .error (.rule e)
      | .ok _ => .ok reading.chart

/- Add parts in order. -/
def addParts
    (c : Chart G A) :
    List Part → Except AssemblyError (Chart G A)
  | [] => .ok c
  | p :: rest =>
      match addPart c p with
      | .error e => .error e
      | .ok next => addParts next rest

/- Designate the initial state that the assembly names. -/
def finish
    (a : Assembly)
    (c : Chart G A) : Except AssemblyError (Chart G A) :=
  if c.states.isEmpty then
    .error .noStates
  else
    match a.initial with
    | none => .ok c
    | some label =>
        match c.designate label with
        | .error _ => .error (.unknownInitial label)
        | .ok designated => .ok designated

/- Put the parts together. -/
def build
    (a : Assembly) : Except AssemblyError (Chart G A) :=
  match addParts Chart.empty a.parts with
  | .error e => .error e
  | .ok c => a.finish c

end Assembly

/- The chart of a rule text with a given initial state. -/
def Chart.ofRulesFrom
    {G A : Type}
    (text initial : String) :
    Except AssemblyError (Chart G A) :=
  Assembly.build
    { parts := [.rules text]
      initial := some initial }

end Statechart
