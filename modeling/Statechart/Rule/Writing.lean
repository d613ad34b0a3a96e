import Statechart.Chart.Dangling
import Statechart.Rule.Basic

/-
  This file defines how a chart is written as a rule text:
  one line per transition, sorted by code point, so that the
  text does not depend on how the chart was built. Hooks and
  states without transitions are not written.

  Key definitions include:
    * `Chart.rules`
    * `Chart.ruleLines`
    * `Chart.ruleText`
-/

namespace Statechart

namespace Chart

variable {G A : Type}

/- The rules of a chart, one for each of its edges. -/
def rules (c : Chart G A) : List Rule :=
  c.edges.map fun e =>
    ⟨e.1.label, e.2.destination, e.2.label⟩

/- The written rules in ascending order. -/
def ruleLines (c : Chart G A) : List String :=
  (c.rules.map fun r => r.text ++ ";").mergeSort
    fun x y => decide (x ≤ y)

/- The rule text of a chart. -/
def ruleText (c : Chart G A) : String :=
  String.intercalate "\n" c.ruleLines

end Chart

end Statechart
