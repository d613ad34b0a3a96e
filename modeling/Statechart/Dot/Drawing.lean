import Statechart.Chart.Dangling
import Statechart.Dot.Basic

/-
  This file defines how charts are drawn in the dot language.

  Key definitions include:
    * `Dot.Options`
    * `Chart.drawing`
    * `Chart.dot`
-/

namespace Statechart

namespace Dot

------------------------------------------------------------
-- Options
------------------------------------------------------------

/-
  A drawing may fix its direction, and it may highlight a
  state by a double border.
-/
structure Options where
  direction : Option Direction
  highlight : Option String
deriving DecidableEq, Repr

namespace Options

/- Neither a direction nor a highlighted state. -/
def plain : Options where
  direction := none
  highlight := none

instance : Inhabited Options :=
  ⟨plain⟩

end Options

end Dot

------------------------------------------------------------
-- Drawings
------------------------------------------------------------

namespace Chart

variable {G A : Type}

/- The statements for the initial state. -/
def drawStart
    (c : Chart G A)
    (draw : State G A → Dot.Statement) :
    List Dot.Statement :=
  match c.initialState? with
  | none => []
  | some s => [draw s]

/- The node of a state. -/
def drawNode
    (options : Dot.Options)
    (s : State G A) : Dot.Statement :=
  .node s.label (options.highlight == some s.label)

/- The edge of a transition. -/
def drawEdge
    (e : State G A × Transition G A) : Dot.Statement :=
  .edge e.1.label e.2.destination e.2.label

/- The statements that draw a chart. -/
def drawing
    (c : Chart G A)
    (options : Dot.Options) : List Dot.Statement :=
  options.direction.toList.map .direction ++
    [.nodeDefaults] ++
    c.drawStart (fun _ => .startMarker) ++
    c.stateList.map (drawNode options) ++
    c.drawStart (fun s => .startEdge s.label) ++
    c.edges.map drawEdge

/- A chart as a dot document. -/
def dot
    (c : Chart G A)
    (options : Dot.Options) : String :=
  Dot.document (c.drawing options)

end Chart

end Statechart
