import Statechart.Machine.Basic

/-
  This file defines how a machine performs a transition.

  The gate is checked first, with the current state. Then the
  exit action of the current state runs, the machine moves,
  and the entry action of the new state and the action of the
  transition run, both with the new state. Every hook is read
  at the moment it is due, and a failing action ends the
  attempt where it stands.

  A missing transition and a closed gate leave the machine as
  it was. So does a failing exit action, while a failing entry
  or transition action is reported after the move.

  Key definitions include:
    * `Attempt`
    * `Machine.can`
    * `Machine.perform`
    * `Machine.performAll`
-/

namespace Statechart

------------------------------------------------------------
-- Attempts
------------------------------------------------------------

/-
  An attempt has a result in any case, and it leaves a
  machine, a scene and the trace of what happened.
-/
structure Attempt (G A W : Type) where
  result : Except Fault Unit
  machine : Machine
  scene : Scene G A W
  trace : List (Happening G A)

namespace Attempt

variable {G A W : Type}

/- Let other happenings come before those of an attempt. -/
def after
    (earlier : List (Happening G A))
    (attempt : Attempt G A W) : Attempt G A W :=
  { attempt with trace := earlier ++ attempt.trace }

end Attempt

namespace Machine

variable {G A W : Type}

------------------------------------------------------------
-- Lines about Attempts
------------------------------------------------------------

/- A line for the logger, if there is one. -/
def log
    (m : Machine)
    (line : String) : List (Happening G A) :=
  m.logger.toList.map fun logger => .logged logger line

/- The line about a missing transition. -/
def missingLine (label : String) : String :=
  "Cannot find transition called " ++ label

/- The line about a closed gate. -/
def closedLine : String :=
  "Transition guard prevented transition"

/- The line about a move. -/
def moveLine (origin label target : String) : String :=
  "Transition(" ++ label ++ "): from State(" ++ origin ++
    ") to new State(" ++ target ++ ")"

------------------------------------------------------------
-- Moving
------------------------------------------------------------

/- Enter a state and write the move into the journal. -/
def moveTo
    (m : Machine)
    (label target : String)
    (time : Timestamp) : Machine :=
  let move : Move := ⟨m.current, label, target, time⟩
  { m with
    current := target
    journal :=
      if m.settings.keepsJournal then
        m.journal.record move
      else
        m.journal }

------------------------------------------------------------
-- Phases of an Attempt
------------------------------------------------------------

/- End an attempt without touching the machine. -/
def refuse
    (m : Machine)
    (scene : Scene G A W)
    (fault : Fault)
    (line : String) : Attempt G A W :=
  ⟨.error fault, m, scene, m.log line⟩

/-
  Run an action. If it fails, the attempt ends; otherwise it
  goes on in the scene that the action leaves.
-/
def runThen
    (host : Host G A W)
    (m : Machine)
    (scene : Scene G A W)
    (kind : HookKind)
    (action : Option A)
    (state : String)
    (next : Scene G A W → Attempt G A W) :
    Attempt G A W :=
  let acted := host.act scene kind action state
  match acted.value with
  | .error cause =>
      ⟨.error (.failedAction kind state cause), m,
        acted.scene, acted.trace⟩
  | .ok () => (next acted.scene).after acted.trace

/- Run the action of the transition in the new state. -/
def conclude
    (host : Host G A W)
    (m : Machine)
    (origin label : String)
    (scene : Scene G A W) : Attempt G A W :=
  runThen host m scene .transition
    (scene.chart.actionOf origin label) m.current
    fun done => ⟨.ok (), m, done, []⟩

/- Run the entry action of the new state, then go on. -/
def arrive
    (host : Host G A W)
    (m : Machine)
    (origin label : String)
    (scene : Scene G A W) : Attempt G A W :=
  runThen host m scene .entry
    (scene.chart.entryOf m.current) m.current
    (conclude host m origin label)

/- Log the move and make it, then go on. -/
def travel
    (host : Host G A W)
    (m : Machine)
    (label target : String)
    (scene : Scene G A W) : Attempt G A W :=
  let moved := m.moveTo label target (host.clock scene.world)
  (arrive host moved m.current label scene).after
    (m.log (moveLine m.current label target) ++
      [.moved m.current label target])

/- Run the exit action of the old state, then go on. -/
def depart
    (host : Host G A W)
    (m : Machine)
    (label target : String)
    (scene : Scene G A W) : Attempt G A W :=
  runThen host m scene .exit
    (scene.chart.exitOf m.current) m.current
    (travel host m label target)

------------------------------------------------------------
-- Performing Transitions
------------------------------------------------------------

/-
  Check whether a transition could be performed. Only its
  gate is checked, and the machine stays as it is.
-/
def can
    (host : Host G A W)
    (m : Machine)
    (scene : Scene G A W)
    (label : String) :
    Outcome G A W (Except Fault Bool) :=
  match scene.chart.transition? m.current label with
  | none =>
      ⟨.error (.noTransition m.current label), scene, []⟩
  | some _ =>
      let asked := host.ask scene m.current label
      ⟨.ok asked.value, asked.scene, asked.trace⟩

/- Perform a transition from the current state. -/
def perform
    (host : Host G A W)
    (m : Machine)
    (scene : Scene G A W)
    (label : String) : Attempt G A W :=
  match scene.chart.transition? m.current label with
  | none =>
      m.refuse scene (.noTransition m.current label)
        (missingLine label)
  | some t =>
      let asked := host.ask scene m.current label
      let rest :=
        if asked.value then
          if asked.scene.chart.hasState t.destination then
            m.depart host label t.destination asked.scene
          else
            ⟨.error (.chart (.unknownState t.destination)),
              m, asked.scene, []⟩
        else
          m.refuse asked.scene (.closedGate m.current label)
            closedLine
      rest.after asked.trace

/- The results of several attempts and what they leave. -/
structure Journey (G A W : Type) where
  results : List (Except Fault Unit)
  machine : Machine
  scene : Scene G A W
  trace : List (Happening G A)

/- Perform transitions in order, whatever their results. -/
def performAll
    (host : Host G A W)
    (m : Machine)
    (scene : Scene G A W) :
    List String → Journey G A W
  | [] => ⟨[], m, scene, []⟩
  | label :: rest =>
      let first := m.perform host scene label
      let others :=
        first.machine.performAll host first.scene rest
      { others with
        results := first.result :: others.results
        trace := first.trace ++ others.trace }

end Machine

end Statechart
