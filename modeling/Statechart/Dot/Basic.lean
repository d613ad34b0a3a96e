/-
  This file defines the statements of drawings in the dot
  language and how they are written.

  A drawing has a small filled start node that points at the
  initial state, one node per state and one labelled edge per
  transition. The start node has a bare name, all other
  names are quoted.

  Key definitions include:
    * `Dot.quote`
    * `Dot.Direction`
    * `Dot.Statement`
    * `Dot.Statement.text`
    * `Dot.document`
-/

namespace Statechart

namespace Dot

------------------------------------------------------------
-- Names
------------------------------------------------------------

/-
  Escape the quotation marks and backslashes of a text with
  a backslash each.
-/
def escape : List Char → List Char
  | [] => []
  | c :: rest =>
      if c = '"' || c = '\\' then
        '\\' :: c :: escape rest
      else
        c :: escape rest

/- Write a text as a quoted name. -/
def quote (text : String) : String :=
  "\"" ++ String.ofList (escape text.toList) ++ "\""

/- The bare name of the start node. -/
def startNode : String :=
  "__start"

------------------------------------------------------------
-- Directions
------------------------------------------------------------

/- In which direction the ranks of a drawing are laid out. -/
inductive Direction where
  | topToBottom
  | leftToRight
  | bottomToTop
  | rightToLeft
deriving DecidableEq, Repr

namespace Direction

/- All directions. -/
def all : List Direction :=
  [topToBottom, leftToRight, bottomToTop, rightToLeft]

/- The two-letter code of a direction. -/
def code : Direction → String
  | topToBottom => "TB"
  | leftToRight => "LR"
  | bottomToTop => "BT"
  | rightToLeft => "RL"

/- The direction with a given code. -/
def ofCode? (code : String) : Option Direction :=
  all.find? (·.code == code)

end Direction

------------------------------------------------------------
-- Statements
------------------------------------------------------------

/- The statements of a drawing. -/
inductive Statement where
  | direction (d : Direction)
  | nodeDefaults
  | startMarker
  | node (state : String) (highlighted : Bool)
  | startEdge (state : String)
  | edge (source destination label : String)
deriving DecidableEq, Repr

namespace Statement

/- The text of a statement, without indentation. -/
def text : Statement → String
  | direction d =>
      "rankdir=" ++ d.code
  | nodeDefaults =>
      "node [shape=circle, height=1, width=1]"
  | startMarker =>
      startNode ++
        " [label=\"\", shape=circle, style=filled, " ++
        "color=black, height=0.25, width=0.25]"
  | node state highlighted =>
      let name := quote state
      let border :=
        if highlighted then ", peripheries=2" else ""
      name ++ " [label=" ++ name ++ border ++ "]"
  | startEdge state =>
      startNode ++ " -> " ++ quote state
  | edge source destination label =>
      quote source ++ " -> " ++ quote destination ++
        " [label=" ++ quote label ++ "]"

/- The line of a statement in a document. -/
def line (s : Statement) : String :=
  "\t" ++ s.text ++ "\n"

end Statement

/- A directed graph with the given statements. -/
def document (statements : List Statement) : String :=
  "digraph \x7b\n" ++
    String.join (statements.map Statement.line) ++
    "\x7d\n"

end Dot

end Statechart
