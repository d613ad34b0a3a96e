import Statechart.Calendar.Timestamp
import Statechart.Chart.Hook

/-
  This file defines hosts. A host gives meaning to the gates
  and actions of a chart. It sees the hook, the chart, the
  state that the hook is called with and a world of its own.
  It may change its world, set and clear hooks of the chart,
  and say something; an action may also fail.

  What happens while a host is called is kept as a list of
  happenings, in order.

  Key definitions include:
    * `HookKind`
    * `Reply`
    * `Host`
    * `Scene`
    * `Happening`
    * `Host.ask`
    * `Host.act`
-/

namespace Statechart

------------------------------------------------------------
-- Kinds of Actions
------------------------------------------------------------

/- When an action is run. -/
inductive HookKind where
  | exit
  | entry
  | transition
deriving DecidableEq, Repr

namespace HookKind

/- All kinds, in the order in which they are due. -/
def all : List HookKind :=
  [exit, entry, transition]

/- The name of a kind. -/
def name : HookKind → String
  | exit => "exit"
  | entry => "entry"
  | transition => "transition"

/- The kind with a given name. -/
def ofName? (name : String) : Option HookKind :=
  all.find? (·.name == name)

end HookKind

------------------------------------------------------------
-- Hosts
------------------------------------------------------------

/-
  What a host answers to a call: a value, its new world, the
  hooks that it sets and clears, and what it says.
-/
structure Reply (G A W R : Type) where
  value : R
  world : W
  edits : List (HookEdit G A)
  notes : List String

/-
  A host checks gates, runs actions and tells the time. An
  action that fails gives the reason.
-/
structure Host (G A W : Type) where
  check :
    G → Chart G A → State G A → W → Reply G A W Bool
  run :
    A → Chart G A → State G A → W →
      Reply G A W (Except String Unit)
  clock : W → Timestamp

/- A chart together with the world of the host. -/
structure Scene (G A W : Type) where
  chart : Chart G A
  world : W

namespace Scene

variable {G A W R : Type}

/- The scene that a reply leaves behind. -/
def hear
    (scene : Scene G A W)
    (reply : Reply G A W R) : Scene G A W where
  chart := scene.chart.editAll reply.edits
  world := reply.world

end Scene

------------------------------------------------------------
-- Happenings
------------------------------------------------------------

/-
  What can be observed while a machine is driven: a gate is
  checked, an action is run, the machine moves, a line goes
  to a logger, and a host says something.
-/
inductive Happening (G A : Type) where
  | checked
      (gate : G)
      (state : State G A)
      (verdict : Bool)
  | ran
      (kind : HookKind)
      (action : A)
      (state : State G A)
      (outcome : Except String Unit)
  | moved (origin transition target : String)
  | logged (logger line : String)
  | noted (text : String)

namespace Happening

variable {G A : Type}

/-
  The text of a happening in a list of events: what was
  said, and the lines of loggers with their names.
-/
def eventText? : Happening G A → Option String
  | logged logger line =>
      some ("log " ++ logger ++ ": " ++ line)
  | noted text => some text
  | _ => none

/- The text that a happening prints for everyone. -/
def printedLine? : Happening G A → Option String
  | logged _ line => some line
  | noted text => some text
  | _ => none

end Happening

------------------------------------------------------------
-- Calls
------------------------------------------------------------

/- The value of a call, the scene after it, and its trace. -/
structure Outcome (G A W R : Type) where
  value : R
  scene : Scene G A W
  trace : List (Happening G A)

namespace Host

variable {G A W : Type}

/- Check a gate with a state. -/
def checkWith
    (host : Host G A W)
    (scene : Scene G A W)
    (gate : G)
    (state : State G A) : Outcome G A W Bool :=
  let reply :=
    host.check gate scene.chart state scene.world
  { value := reply.value
    scene := scene.hear reply
    trace :=
      .checked gate state reply.value ::
        reply.notes.map .noted }

/- Run an action with a state. -/
def runWith
    (host : Host G A W)
    (scene : Scene G A W)
    (kind : HookKind)
    (action : A)
    (state : State G A) :
    Outcome G A W (Except String Unit) :=
  let reply :=
    host.run action scene.chart state scene.world
  { value := reply.value
    scene := scene.hear reply
    trace :=
      .ran kind action state reply.value ::
        reply.notes.map .noted }

/-
  Check the gate of a transition with the state it leaves.
  A transition without a gate is open.
-/
def ask
    (host : Host G A W)
    (scene : Scene G A W)
    (state label : String) : Outcome G A W Bool :=
  match scene.chart.state? state,
    scene.chart.gateOf state label with
  | some s, some gate => host.checkWith scene gate s
  | _, _ => ⟨true, scene, []⟩

/-
  Run an action, if there is one, with a registered state.
-/
def act
    (host : Host G A W)
    (scene : Scene G A W)
    (kind : HookKind)
    (action : Option A)
    (state : String) :
    Outcome G A W (Except String Unit) :=
  match action, scene.chart.state? state with
  | some a, some s => host.runWith scene kind a s
  | _, _ => ⟨.ok (), scene, []⟩

end Host

end Statechart
