import Statechart.Kiosk.Amount
import Statechart.Kiosk.Basic
import Statechart.Machine.Host
import Statechart.Rule.Reading

/-
  This file defines the chart of the kiosk and the hooks that
  are attached to it. A gate of the chart is the event whose
  refusals it asks for; an action is one of the operations of
  the kiosk.

  Key definitions include:
    * `Kiosk.ruleLines`
    * `Kiosk.rules`
    * `Kiosk.Operation`
    * `Kiosk.host`
    * `Kiosk.wiring`
-/

namespace Statechart

namespace Kiosk

------------------------------------------------------------
-- Rules
------------------------------------------------------------

/- The screens of the kiosk and how events lead on. -/
def ruleLines : List String :=
  [ "",
    "    idle -> waiting (system_ready);",
    "    waiting -> waiting (cancel_eject);",
    "    waiting -> wait_for_pin (insert_card);",
    "",
    "    wait_for_pin -> checking (input_pin);",
    "    wait_for_pin -> waiting (cancel_eject);",
    "",
    "    checking -> pending (preapprove);",
    "    checking -> rejected (insufficient_funds);",
    "    rejected -> waiting (cancel_eject);",
    "",
    "    pending -> checking (add_ticket);" ++
      "   # re-reserve for the larger order",
    "    pending -> pending (remove_ticket);",
    "    pending -> purchased (confirm_purchase);",
    "    pending -> waiting (cancel_eject);",
    "",
    "    purchased -> waiting (print_spooled);",
    "" ]

/- The rules of the kiosk in one text. -/
def rules : String :=
  String.intercalate "\n" ruleLines

------------------------------------------------------------
-- Operations
------------------------------------------------------------

/- What the actions of the chart do. -/
inductive Operation where
  | announceReady
  | askForCard
  | askForPin
  | openOrder
  | checkFunds
  | rejectCard
  | thankCustomer
  | printReceipt
  | reserveTotal
  | addTicket
  | removeTicket
  | purchase
  | cancelOrder
  | ejectCard
deriving DecidableEq, Repr

/- A display with a rule above its lines. -/
def display (lines : List String) : List String :=
  "Display: ----------------------------------------" ::
    lines.map ("Display: " ++ ·)

/- What is being bought. -/
def summary (k : Kiosk) : List String :=
  display
    [ "Currently purchasing " ++ toString k.tickets ++
        " ticket(s).",
      "Total: $" ++ Amount.text k.total ]

/- What the receipt says. -/
def receipt (k : Kiosk) : List String :=
  [ "Printer: Transaction " ++ toString k.transaction,
    "Printer: " ++ toString k.tickets ++ " Ticket(s)",
    "Printer: Total: $" ++ Amount.text k.total ]

/- Reserve the price of all tickets. -/
def reserveTotal (k : Kiosk) : Kiosk :=
  k.reserve k.total

/- Undo the reservation, then count one more ticket. -/
def addTicket (k : Kiosk) : Kiosk :=
  { k.reserve (-k.total) with
    tickets := k.arithmetic.count (k.tickets + 1) }

/- Count one ticket less and undo its reservation. -/
def removeTicket (k : Kiosk) : Kiosk :=
  let fewer :=
    { k with tickets := k.arithmetic.count (k.tickets - 1) }
  fewer.reserve (-ticketPrice)

/- Undo the reservation and drop all tickets. -/
def cancelOrder (k : Kiosk) : Kiosk :=
  let released := k.reserve (-k.total)
  { released with tickets := 0 }

/- The kiosk after an operation. -/
def after (k : Kiosk) : Operation → Kiosk
  | .announceReady => k
  | .askForCard => k
  | .askForPin => k
  | .openOrder =>
      { k with
        tickets := 1
        transaction :=
          k.arithmetic.count (k.transaction + 1) }
  | .checkFunds => k.queue .preapprove
  | .rejectCard => k.queue .cancelEject
  | .thankCustomer => k
  | .printReceipt => k
  | .reserveTotal => k.reserveTotal
  | .addTicket => k.addTicket
  | .removeTicket => k.removeTicket
  | .purchase =>
      ((k.spend k.total).eject).queue .printSpooled
  | .cancelOrder => k.cancelOrder.eject
  | .ejectCard => k.eject

/- What the kiosk prints on an operation. -/
def printed (k : Kiosk) : Operation → List String
  | .announceReady => ["Display: System Ready"]
  | .askForCard =>
      display
        [ "Please insert your card to begin",
          "Ticket price is $" ++ Amount.text ticketPrice ]
  | .askForPin =>
      display ["Card inserted, please enter your pin"]
  | .openOrder => []
  | .checkFunds => display ["Checking for sufficient funds"]
  | .rejectCard =>
      [ "Display: Insufficient Funds on this Card. " ++
          "Please use a different card..." ]
  | .thankCustomer =>
      display ["Purchase Complete! Printing Receipt..."]
  | .printReceipt => k.receipt
  | .reserveTotal => k.reserveTotal.summary
  | .addTicket => []
  | .removeTicket => k.removeTicket.summary
  | .purchase => k.ejectLines
  | .cancelOrder => k.ejectLines
  | .ejectCard => k.ejectLines

/-
  The host of the kiosk's chart. A gate is open unless its
  event is refused. No operation fails.
-/
def host : Host Event Operation Kiosk where
  check event _ _ k :=
    { value := (k.refusal? event).isNone
      world := k
      edits := []
      notes := [] }
  run operation _ _ k :=
    { value := .ok ()
      world := k.after operation
      edits := []
      notes := k.printed operation }
  clock _ := ⟨0, 0⟩

------------------------------------------------------------
-- Wiring
------------------------------------------------------------

/- Act when a screen is entered. -/
def onEntry
    (screen : Screen)
    (operation : Operation) : HookEdit Event Operation :=
  .entry screen.label (some operation)

/- Act when a screen is left. -/
def onExit
    (screen : Screen)
    (operation : Operation) : HookEdit Event Operation :=
  .exit screen.label (some operation)

/- Ask for refusals before an event leaves a screen. -/
def gated
    (screen : Screen)
    (event : Event) : HookEdit Event Operation :=
  .gate screen.label event.label (some event)

/- Act when an event leaves a screen. -/
def onEvent
    (screen : Screen)
    (event : Event)
    (operation : Operation) : HookEdit Event Operation :=
  .action screen.label event.label (some operation)

/- All hooks of the kiosk. -/
def wiring : List (HookEdit Event Operation) :=
  [ onExit .idle .announceReady,
    onEntry .waiting .askForCard,
    onEntry .waitForPin .askForPin,
    onExit .waitForPin .openOrder,
    onEntry .checking .checkFunds,
    onEntry .rejected .rejectCard,
    onEntry .purchased .thankCustomer,
    onExit .purchased .printReceipt,
    gated .waiting .insertCard,
    gated .waitForPin .inputPin,
    gated .checking .preapprove,
    onEvent .checking .preapprove .reserveTotal,
    gated .pending .addTicket,
    onEvent .pending .addTicket .addTicket,
    gated .pending .removeTicket,
    onEvent .pending .removeTicket .removeTicket,
    onEvent .pending .confirmPurchase .purchase,
    onEvent .pending .cancelEject .cancelOrder,
    onEvent .waitForPin .cancelEject .ejectCard,
    onEvent .rejected .cancelEject .ejectCard ]

end Kiosk

end Statechart
