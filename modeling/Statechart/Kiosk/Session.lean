import Statechart.Kiosk.Wiring
import Statechart.Machine.Walk

/-
  This file defines sessions at the kiosk. A session submits
  the events of customers to the machine that walks the
  kiosk's chart, and afterwards performs the events that the
  hooks have queued until none are left.

  Key definitions include:
    * `Session`
    * `Session.loadChart`
    * `Session.open?`
    * `Session.Turn`
    * `Session.settle?`
    * `Session.fire`
    * `Session.submit`
    * `Session.insertCard`
    * `Session.inputPin`
    * `Session.balance`
-/

namespace Statechart

/- A machine, the chart it walks, and the kiosk. -/
structure Session where
  machine : Machine
  chart : Chart Event Kiosk.Operation
  kiosk : Kiosk

namespace Session

------------------------------------------------------------
-- Opening a Session
------------------------------------------------------------

/- Why no session can be opened. -/
inductive OpeningError where
  | rules (error : RuleError)
  | chart (error : ChartError)
  | missingScreen (screen : Screen)
  | machine (fault : Fault)

/- The text of an error. -/
def OpeningError.message : OpeningError → String
  | .rules error => error.message
  | .chart error => error.message
  | .missingScreen screen =>
      "kiosk definition lacks state " ++ screen.label
  | .machine fault => fault.message

/- The first screen that a chart does not have. -/
def missingScreen?
    (c : Chart Event Kiosk.Operation) : Option Screen :=
  (Vocabulary.all : List Screen).find? fun s =>
    !c.hasState s.label

/- The chart that was read, if it is closed and complete. -/
def checkChart :
    Except RuleError (Chart Event Kiosk.Operation) →
      Except OpeningError (Chart Event Kiosk.Operation)
  | .error e => .error (.rules e)
  | .ok c =>
      match c.validate with
      | .error e => .error (.chart e)
      | .ok () =>
          match missingScreen? c with
          | some s => .error (.missingScreen s)
          | none => .ok c

/- The chart of the kiosk, without hooks. -/
def loadChart :
    Except OpeningError (Chart Event Kiosk.Operation) :=
  checkChart (Chart.ofRules Kiosk.rules)

/- Bind a machine to a chart, then attach the hooks. -/
def start
    (k : Kiosk) :
    Except OpeningError (Chart Event Kiosk.Operation) →
      Except OpeningError Session
  | .error e => .error e
  | .ok c =>
      match Machine.bind .standard c with
      | .error fault => .error (.machine fault)
      | .ok m => .ok ⟨m, c.editAll Kiosk.wiring, k⟩

/- Open a session at the kiosk. -/
def open?
    (k : Kiosk) : Except OpeningError Session :=
  start k loadChart

------------------------------------------------------------
-- Turns
------------------------------------------------------------

/-
  The session after a turn, its result, and what it prints.
  A turn is stalled if its follow-ups do not come to an end;
  it shows how far it was known to come.
-/
structure Turn where
  session : Session
  result : Except Fault Unit
  lines : List String
  isStalled : Bool := false

namespace Turn

/- The turn in which nothing happens. -/
def still (s : Session) : Turn where
  session := s
  result := .ok ()
  lines := []

/- Let other lines come before those of a turn. -/
def after
    (earlier : List String)
    (t : Turn) : Turn :=
  { t with lines := earlier ++ t.lines }

end Turn

/- Perform the transition of an event. -/
def perform
    (s : Session)
    (e : Event) : Turn :=
  let attempt :=
    s.machine.perform Kiosk.host ⟨s.chart, s.kiosk⟩ e.label
  { session :=
      ⟨attempt.machine, attempt.scene.chart,
        attempt.scene.world⟩
    result := attempt.result
    lines :=
      attempt.trace.filterMap Happening.printedLine? }

------------------------------------------------------------
-- Follow-ups
------------------------------------------------------------

/-
  Perform an event that was queued. A closed gate before a
  preapproval means that the funds are insufficient.
-/
def followUp
    (s : Session)
    (e : Event) : Turn :=
  let first := s.perform e
  match e, first.result with
  | .preapprove, .error (.closedGate _ _) =>
      (first.session.perform .insufficientFunds).after
        first.lines
  | _, _ => first

/-
  Perform queued events until none are left or one of them
  fails. There is no turn if more of them would have to be
  performed than the budget allows for.
-/
def settle?
    (budget : Nat)
    (s : Session) : Option Turn :=
  match s.kiosk.followUps with
  | [] => some (.still s)
  | e :: rest =>
      match budget with
      | 0 => none
      | budget + 1 =>
          let popped :=
            { s with kiosk := { s.kiosk with followUps := rest } }
          let turn := popped.followUp e
          match turn.result with
          | .error _ => some turn
          | .ok () =>
              (settle? budget turn.session).map
                (·.after turn.lines)

/-
  More follow-ups than one customer event can cause. An event
  queues at most one other, and no chain of them is longer
  than two.
-/
def settleBudget : Nat :=
  8

------------------------------------------------------------
-- Firing Events
------------------------------------------------------------

/- What the display says about a refused event. -/
def refusalLines
    (s : Session)
    (e : Event) : List String :=
  match s.kiosk.refusal? e with
  | none => []
  | some reason => ["Display: " ++ reason.message]

/-
  Perform an event and all that follow it, or tell why it is
  refused.
-/
def fire
    (s : Session)
    (e : Event) : Turn :=
  let first := s.perform e
  match first.result with
  | .ok () =>
      match settle? settleBudget first.session with
      | none => { first with isStalled := true }
      | some turn => turn.after first.lines
  | .error (.closedGate _ _) =>
      { first with
        lines := first.lines ++ first.session.refusalLines e }
  | .error _ => first

/- Fire an event and log it, whatever its result. -/
def submit
    (s : Session)
    (e : Event) : Turn :=
  let fired := s.fire e
  { fired with
    result := .ok ()
    lines := fired.lines ++ ["[Action Logged]"] }

------------------------------------------------------------
-- Customers
------------------------------------------------------------

/-
  Insert a card. It is ejected again unless the kiosk asks
  for its pin.
-/
def insertCard
    (s : Session)
    (name : String) : Turn :=
  let inserted :=
    { s with kiosk := { s.kiosk with inserted := some name } }
  let turn := inserted.submit .insertCard
  let after := turn.session
  if after.machine.isIn Screen.waitForPin.label then
    turn
  else
    { turn with
      session := { after with kiosk := after.kiosk.eject }
      lines := turn.lines ++ after.kiosk.ejectLines }

/- Enter a pin. -/
def inputPin
    (s : Session)
    (pin : String) : Turn :=
  let entered :=
    { s with kiosk := { s.kiosk with pinEntry := some pin } }
  entered.submit .inputPin

/- Print the balances of a card that the kiosk knows. -/
def balance
    (s : Session)
    (name : String) : List String :=
  match s.kiosk.cards.get? name with
  | none => []
  | some c =>
      [ "Balance: $" ++ Amount.text c.available ++
          " available, $" ++ Amount.text c.reserved ++
          " reserved" ]

end Session

end Statechart
