import Statechart.Chart.Basic
import Statechart.Text.Printable

/-
  This file defines how charts and states are shown for
  inspection, with every field on a single line. Hooks have
  no text; only their presence is shown.

  Key definitions include:
    * `Transition.inspection`
    * `State.inspection`
    * `Chart.inspection`
-/

namespace Statechart

namespace Inspection

------------------------------------------------------------
-- Layout
------------------------------------------------------------

/- Show an optional value. -/
def optional
    {α : Type}
    (shown : α → String) :
    Option α → String
  | none => "None"
  | some value => "Some(" ++ shown value ++ ")"

/- Show the fields of a record with a name. -/
def fields
    (name : String)
    (parts : List (String × String)) : String :=
  name ++ " \x7b " ++
    String.intercalate ", "
      (parts.map fun p => p.1 ++ ": " ++ p.2) ++
    " \x7d"

/- Show the entries of a label map. -/
def entries
    {α : Type}
    (shown : α → String)
    (m : LabelMap α) : String :=
  "\x7b" ++
    String.intercalate ", "
      (m.entries.map fun e =>
        Text.inspected e.1 ++ ": " ++ shown e.2) ++
    "\x7d"

end Inspection

------------------------------------------------------------
-- Charts
------------------------------------------------------------

open Inspection

variable {G A : Type}

/- Show a transition. -/
def Transition.inspection
    (t : Transition G A) : String :=
  fields "Transition"
    [ ("label", Text.inspected t.label),
      ("source", optional Text.inspected t.source),
      ("destination", Text.inspected t.destination),
      ("gate", optional (fun _ => "Gate(..)") t.gate),
      ("action", optional (fun _ => "Action(..)") t.action) ]

/- Show a state. -/
def State.inspection (s : State G A) : String :=
  fields "State"
    [ ("label", Text.inspected s.label),
      ("transitions",
        entries Transition.inspection s.transitions),
      ("entry_action",
        optional (fun _ => "Action(..)") s.entry),
      ("exit_action",
        optional (fun _ => "Action(..)") s.exit) ]

/- Show a chart. -/
def Chart.inspection (c : Chart G A) : String :=
  fields "Definition"
    [ ("states", entries State.inspection c.states),
      ("initial", optional Text.inspected c.initial) ]

end Statechart
