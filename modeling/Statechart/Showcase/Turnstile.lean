import Statechart.Machine.Walk
import Statechart.Rule.Reading
import Statechart.Rule.Writing
import Statechart.Showcase.Basic

/-
  This file defines a coin-operated turnstile. Its chart is
  read from rules line by line, a few hooks print what
  happens, and a machine with a logger is pushed and fed with
  coins.

  Key definitions include:
    * `Turnstile.rules`
    * `Turnstile.chart`
    * `Turnstile.performance`
-/

namespace Statechart

namespace Turnstile

------------------------------------------------------------
-- The Chart
------------------------------------------------------------

/- The lines of the rules of the turnstile. -/
def ruleLines : List String :=
  [ "",
    "# Coin machine",
    "locked -> locked (push);",
    "locked -> unlocked (coin); # trailing comment",
    "",
    "unlocked -> locked (push);",
    "unlocked -> unlocked (coin);" ]

/- The rules of the turnstile in one text. -/
def rules : String :=
  String.intercalate "\n" ruleLines

/- An action of the turnstile prints a line. -/
structure Remark where
  line : String
deriving DecidableEq, Repr

/- A chart whose gates are never set. -/
abbrev PlainChart := Chart Unit Remark

/- Read lines one after the other. -/
def readLines
    (c : PlainChart) :
    List String → Except RuleError PlainChart
  | [] => .ok c
  | line :: rest =>
      let reading := c.read line
      match reading.outcome with
      | .error e => .error e
      | .ok _ => readLines reading.chart rest

/- The remarks of the turnstile. -/
def remarks : List (HookEdit Unit Remark) :=
  [ .action "unlocked" "coin"
      (some ⟨"#### Stile already unlocked. Coin rejected."⟩),
    .action "locked" "push"
      (some ⟨"#### Stile locked. Try putting a coin in."⟩),
    .entry "unlocked" (some ⟨"### Clunk!"⟩) ]

/- The chart of the turnstile with its remarks. -/
def chart : Except String PlainChart :=
  match readLines .empty ruleLines with
  | .error e => .error e.message
  | .ok c =>
      match c.designate "locked" with
      | .error e => .error e.message
      | .ok designated => .ok (designated.editAll remarks)

/- Remarks are said, and nothing else happens. -/
def host : Host Unit Remark Unit where
  check _ _ _ world :=
    { value := true
      world := world
      edits := []
      notes := [] }
  run remark _ _ world :=
    { value := .ok ()
      world := world
      edits := []
      notes := [remark.line] }
  clock _ := ⟨0, 0⟩

------------------------------------------------------------
-- The Performance
------------------------------------------------------------

/- What is done at the turnstile. -/
def events : List String :=
  ["push", "coin", "push", "coin", "coin", "coin"]

/- The line that names the current state of a machine. -/
def stateLine (m : Machine) : Printed :=
  .line ("State(" ++ m.current ++ ")")

/- Perform events and print each state that is reached. -/
def walk
    (m : Machine)
    (c : PlainChart) :
    List String → Performance
  | [] => .ofPrinted []
  | event :: rest =>
      let attempt := m.perform host ⟨c, ()⟩ event
      let said :=
        (attempt.trace.filterMap
          Happening.printedLine?).map Printed.line
      match attempt.result with
      | .error fault => ⟨said, some fault.message⟩
      | .ok () =>
          let later :=
            walk attempt.machine attempt.scene.chart rest
          { later with
            printed :=
              said ++ stateLine attempt.machine ::
                later.printed }

/- Print the chart, then walk it. -/
def perform (c : PlainChart) : Performance :=
  let intro : List Printed :=
    [ .line (c.ruleText ++ "\n"),
      .line (c.dot .plain) ]
  match Machine.bind .standard c with
  | .error fault => ⟨intro, some fault.message⟩
  | .ok m =>
      let walked := walk (m.setLogger "stile") c events
      { walked with
        printed := intro ++ stateLine m :: walked.printed }

/- The turnstile at work. -/
def performance : Performance :=
  match chart with
  | .error reason => .failed reason
  | .ok c => perform c

end Turnstile

end Statechart
