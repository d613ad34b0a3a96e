import Statechart.Dot.Drawing
import Statechart.Grid
import Statechart.Rule.Reading
import Statechart.Showcase.Basic

/-
  This file defines how the chart of a coin machine is
  printed as a table and drawn from left to right. The chart
  is read twice, rule by rule and in one text, and both
  readings have to agree.

  Key definitions include:
    * `CoinTable.ruleByRule`
    * `CoinTable.allAtOnce`
    * `CoinTable.performance`
-/

namespace Statechart

namespace CoinTable

------------------------------------------------------------
-- The Chart
------------------------------------------------------------

/- A chart without hooks. -/
abbrev BareChart := Chart Unit Unit

/- The rules one by one. -/
def rules : List String :=
  [ "locked -> locked (push)",
    "locked -> unlocked (coin)",
    "unlocked -> locked (push)",
    "unlocked -> unlocked (coin)" ]

/- The rules in one text. -/
def text : String :=
  "# Coin machine\n" ++
  "locked -> locked (push);locked -> unlocked (coin);" ++
  " # trailing comment\n\n" ++
  "unlocked -> locked (push);\n" ++
  "unlocked -> unlocked (coin);"

/- Read texts one after the other. -/
def readTexts
    (c : BareChart) :
    List String → Except RuleError BareChart
  | [] => .ok c
  | text :: rest =>
      let reading := c.read text
      match reading.outcome with
      | .error e => .error e
      | .ok _ => readTexts reading.chart rest

/- The chart of the rules read one by one. -/
def ruleByRule : Except RuleError BareChart :=
  readTexts .empty rules

/- The chart of the rules read in one text. -/
def allAtOnce : Except RuleError BareChart :=
  Chart.ofRules text

------------------------------------------------------------
-- The Performance
------------------------------------------------------------

/- From left to right, with the locked state marked. -/
def options : Dot.Options where
  direction := some .leftToRight
  highlight := some "locked"

/- Print a chart as a table and as a drawing. -/
def print (c : BareChart) : Performance :=
  .ofPrinted
    [ .text c.grid.text,
      .line ("\n" ++ c.dot options) ]

/- The table of the coin machine. -/
def performance : Performance :=
  match ruleByRule, allAtOnce with
  | .error e, _ => .failed e.message
  | _, .error e => .failed e.message
  | .ok c, .ok d =>
      if c.sameOutline d then
        print c
      else
        .failed
          "line-by-line and multi-line definitions differ"

end CoinTable

end Statechart
