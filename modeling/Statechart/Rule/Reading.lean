import Statechart.Chart.Construction
import Statechart.Rule.Basic
import Statechart.Rule.Statement

/-
  This file defines how rule texts are read into charts. The
  statements of a text are applied in order. Reading stops at
  the first statement that is not a rule, and the statements
  before it stay applied.

  Key definitions include:
    * `RuleError`
    * `Reading`
    * `Chart.applyRule`
    * `Chart.readFrom`
    * `Chart.read`
    * `Chart.ofRules`
-/

namespace Statechart

------------------------------------------------------------
-- Outcomes
------------------------------------------------------------

/-
  A statement that is not a rule, with the number of rules
  that were applied before it.
-/
structure RuleError where
  applied : Nat
  statement : String
deriving DecidableEq, Repr

namespace RuleError

/- The text of an error. -/
def message (e : RuleError) : String :=
  "invalid rule '" ++ e.statement ++ "' after " ++
    toString e.applied ++ " applied statement(s)"

end RuleError

/-
  Reading a text leaves a chart in any case. The outcome is
  the number of rules applied or the statement at fault.
-/
structure Reading (G A : Type) where
  chart : Chart G A
  outcome : Except RuleError Nat

------------------------------------------------------------
-- Reading
------------------------------------------------------------

namespace Chart

variable {G A : Type}

/- Apply a rule. The last rule for a label wins. -/
def applyRule
    (c : Chart G A)
    (r : Rule) : Chart G A :=
  c.connect r.source r.destination r.label

/- Apply statements after some that are applied already. -/
def readFrom
    (applied : Nat)
    (c : Chart G A) :
    List String → Reading G A
  | [] => ⟨c, .ok applied⟩
  | statement :: rest =>
      match Rule.parse? statement with
      | none => ⟨c, .error ⟨applied, statement⟩⟩
      | some r => readFrom (applied + 1) (c.applyRule r) rest

/- Read a text into a chart. -/
def read
    (c : Chart G A)
    (text : String) : Reading G A :=
  c.readFrom 0 (statements text)

/- The chart of a text in which every statement is a rule. -/
def ofRules
    (text : String) : Except RuleError (Chart G A) :=
  let reading := (Chart.empty : Chart G A).read text
  match reading.outcome with
  | .error e => .error e
  | .ok _ => .ok reading.chart

end Chart

end Statechart
