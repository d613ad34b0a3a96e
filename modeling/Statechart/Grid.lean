import Statechart.Chart.Basic

/-
  This file defines grids: tables with one column per state
  and one row per transition label whose cells name the
  destinations. A cell is empty where the label of its row
  does not leave the state of its column.

  Key definitions include:
    * `GridRow`
    * `Grid`
    * `Grid.destination?`
    * `Grid.text`
    * `Chart.labels`
    * `Chart.grid`
-/

namespace Statechart

------------------------------------------------------------
-- Grids
------------------------------------------------------------

/- The destinations of one transition label. -/
structure GridRow where
  label : String
  cells : List (Option String)
deriving DecidableEq, Repr

/- Columns are state labels; rows hold one cell for each. -/
structure Grid where
  columns : List String
  rows : List GridRow
deriving DecidableEq, Repr

namespace Grid

/- What stands for an empty cell in a printed grid. -/
def emptyCell : String :=
  "..."

/- The position of the first column of a state. -/
def column?
    (g : Grid)
    (state : String) : Option Nat :=
  g.columns.findIdx? (· == state)

/- The first row of a transition label. -/
def row?
    (g : Grid)
    (label : String) : Option GridRow :=
  g.rows.find? (·.label == label)

/-
  The destination of a transition label from a state, read
  off the grid by position.
-/
def destination?
    (g : Grid)
    (state label : String) : Option String :=
  match g.column? state, g.row? label with
  | some i, some row => (row.cells[i]?).join
  | _, _ => none

/- Print cells side by side. -/
def sideBySide (cells : List String) : String :=
  String.intercalate " | " cells

/- Print a row after its label. -/
def rowText (row : GridRow) : String :=
  row.label ++ ": " ++
    sideBySide (row.cells.map (·.getD emptyCell)) ++ "\n"

/- Print a grid: the columns, then one line per row. -/
def text (g : Grid) : String :=
  sideBySide g.columns ++ "\n" ++
    String.join (g.rows.map rowText)

end Grid

------------------------------------------------------------
-- The Grid of a Chart
------------------------------------------------------------

namespace Chart

variable {G A : Type}

/- All transition labels of a chart, ascending. -/
def labels (c : Chart G A) : List String :=
  (LabelMap.ofKeys
    (c.stateList.flatMap (·.transitionLabels))).keys

/- The row of a transition label. -/
def gridRow
    (c : Chart G A)
    (label : String) : GridRow where
  label := label
  cells :=
    c.stateList.map fun s =>
      (s.transition? label).map (·.destination)

/- Tabulate a chart as states by transition labels. -/
def grid (c : Chart G A) : Grid where
  columns := c.stateList.map (·.label)
  rows := c.labels.map c.gridRow

end Chart

end Statechart
