import Statechart.Kiosk.Arithmetic
import Statechart.LabelMap.Basic
import Statechart.Vocabulary

/-
  This file defines the ticket kiosk of a tourist attraction:
  its screens, the events that customers and the kiosk itself
  raise, the cards it knows, and the reasons for which it
  refuses an event.

  Balances are counted in cents. A reservation moves money
  from the available to the reserved balance of the inserted
  card. All balances and counts that the kiosk computes are
  stored by its arithmetic.

  Key definitions include:
    * `Screen`
    * `Event`
    * `Card`
    * `Kiosk`
    * `Kiosk.total`
    * `Kiosk.reserve`
    * `Refusal`
    * `Kiosk.refusal?`
-/

namespace Statechart

------------------------------------------------------------
-- Screens and Events
------------------------------------------------------------

/- What the kiosk shows. -/
inductive Screen where
  | idle
  | waiting
  | waitForPin
  | checking
  | pending
  | rejected
  | purchased
deriving DecidableEq, Repr

namespace Screen

/- The label of a screen. -/
def label : Screen → String
  | idle => "idle"
  | waiting => "waiting"
  | waitForPin => "wait_for_pin"
  | checking => "checking"
  | pending => "pending"
  | rejected => "rejected"
  | purchased => "purchased"

instance : Vocabulary Screen where
  all :=
    [idle, waiting, waitForPin, checking, pending, rejected,
      purchased]
  label := label

end Screen

/-
  What can happen at the kiosk. Customers raise the first
  seven events; the last three are raised by the kiosk.
-/
inductive Event where
  | systemReady
  | cancelEject
  | insertCard
  | inputPin
  | addTicket
  | removeTicket
  | confirmPurchase
  | preapprove
  | insufficientFunds
  | printSpooled
deriving DecidableEq, Repr

namespace Event

/- The label of an event. -/
def label : Event → String
  | systemReady => "system_ready"
  | cancelEject => "cancel_eject"
  | insertCard => "insert_card"
  | inputPin => "input_pin"
  | addTicket => "add_ticket"
  | removeTicket => "remove_ticket"
  | confirmPurchase => "confirm_purchase"
  | preapprove => "preapprove"
  | insufficientFunds => "insufficient_funds"
  | printSpooled => "print_spooled"

instance : Vocabulary Event where
  all :=
    [systemReady, cancelEject, insertCard, inputPin,
      addTicket, removeTicket, confirmPurchase, preapprove,
      insufficientFunds, printSpooled]
  label := label

end Event

------------------------------------------------------------
-- Cards
------------------------------------------------------------

/- A debit card with its balances. -/
structure Card where
  kind : String
  pin : String
  available : Int
  reserved : Int
deriving DecidableEq, Repr

------------------------------------------------------------
-- The Kiosk
------------------------------------------------------------

/-
  The kiosk counts transactions and tickets, knows cards by
  name, holds a card and an entered pin perhaps, and queues
  events that are to follow.
-/
structure Kiosk where
  arithmetic : Arithmetic
  transaction : Nat
  tickets : Nat
  cards : LabelMap Card
  inserted : Option String
  pinEntry : Option String
  followUps : List Event

namespace Kiosk

/- The price of a ticket. -/
def ticketPrice : Int :=
  450

/- How many tickets a customer can have at most. -/
def maxTickets : Nat :=
  5

/- A kiosk that knows some cards. -/
def ofCards
    (cards : List (String × Card))
    (arithmetic : Arithmetic := .wrapping) : Kiosk where
  arithmetic := arithmetic
  transaction := 0
  tickets := 0
  cards :=
    cards.foldl (fun m c => m.insert c.1 c.2) .empty
  inserted := none
  pinEntry := none
  followUps := []

/-
  The price of all tickets. No count that fits is so large
  that this balance does not.
-/
def total (k : Kiosk) : Int :=
  k.tickets * ticketPrice

/- The inserted card, if the kiosk knows it. -/
def card? (k : Kiosk) : Option Card :=
  match k.inserted with
  | none => none
  | some name => k.cards.get? name

/- Change the inserted card. -/
def modifyCard
    (k : Kiosk)
    (f : Card → Card) : Kiosk :=
  match k.inserted with
  | none => k
  | some name => { k with cards := k.cards.modify name f }

/- Move an amount to the reserved balance. -/
def reserve
    (k : Kiosk)
    (amount : Int) : Kiosk :=
  k.modifyCard fun c =>
    { c with
      available :=
        k.arithmetic.balance (c.available - amount)
      reserved :=
        k.arithmetic.balance (c.reserved + amount) }

/- Take an amount from the reserved balance for good. -/
def spend
    (k : Kiosk)
    (amount : Int) : Kiosk :=
  k.modifyCard fun c =>
    { c with
      reserved :=
        k.arithmetic.balance (c.reserved - amount) }

/- Let an event follow. -/
def queue
    (k : Kiosk)
    (e : Event) : Kiosk :=
  { k with followUps := k.followUps ++ [e] }

/- Give the card back and forget the pin. -/
def eject (k : Kiosk) : Kiosk :=
  { k with inserted := none, pinEntry := none }

/- What the ejector reports. -/
def ejectLines (k : Kiosk) : List String :=
  match k.inserted with
  | none => []
  | some _ => ["Ejector: CARD_EJECTED"]

end Kiosk

------------------------------------------------------------
-- Refusals
------------------------------------------------------------

/- Why an event is refused. -/
inductive Refusal where
  | noCard
  | unsupportedCard (kind : String)
  | unreadablePin
  | missingPin
  | wrongPin
  | ticketLimit
  | noFundsForTicket
  | lastTicket
  | noFundsForTotal
deriving DecidableEq, Repr

namespace Refusal

/- The text of a refusal. -/
def message : Refusal → String
  | noCard => "No card inserted"
  | unsupportedCard kind =>
      "Unsupported Card Type. Nobody supports " ++ kind ++
        ", please enter a VISA card!"
  | unreadablePin =>
      "Unable to read card, corrupted pin code? " ++
        "Please try again."
  | missingPin => "Missing Pin. Please try again!"
  | wrongPin => "Invalid Pin. Please try again!"
  | ticketLimit =>
      "Maximum Tickets per Customer is " ++
        toString Kiosk.maxTickets
  | noFundsForTicket =>
      "Not enough funds to add another ticket."
  | lastTicket => "Purchasing 1 Ticket"
  | noFundsForTotal => "Insufficient Funds on this Card."

end Refusal

namespace Card

/-
  Why a card cannot be used at all. A pin has to have four
  bytes in UTF-8.
-/
def refusal? (c : Card) : Option Refusal :=
  if c.kind ≠ "VISA" then
    some (.unsupportedCard c.kind)
  else if c.pin.utf8ByteSize ≠ 4 then
    some .unreadablePin
  else
    none

end Card

namespace Kiosk

/- Why the entered pin is not the pin of a card. -/
def pinRefusal?
    (k : Kiosk)
    (c : Card) : Option Refusal :=
  match k.pinEntry with
  | none => some .missingPin
  | some guess =>
      if guess = c.pin then none else some .wrongPin

/- Why a card cannot pay for another ticket. -/
def ticketRefusal?
    (k : Kiosk)
    (c : Card) : Option Refusal :=
  if maxTickets ≤ k.tickets then
    some .ticketLimit
  else if c.available < ticketPrice then
    some .noFundsForTicket
  else
    none

/- Why an event is refused with a card inserted. -/
def refusalWith?
    (k : Kiosk)
    (c : Card) : Event → Option Refusal
  | .insertCard => c.refusal?
  | .inputPin => k.pinRefusal? c
  | .addTicket => k.ticketRefusal? c
  | .removeTicket =>
      if k.tickets ≤ 1 then some .lastTicket else none
  | .preapprove =>
      if c.available < k.total then
        some .noFundsForTotal
      else
        none
  | _ => none

/- Why an event is refused now, if it is. -/
def refusal?
    (k : Kiosk)
    (e : Event) : Option Refusal :=
  match k.card? with
  | none => some .noCard
  | some c => k.refusalWith? c e

end Kiosk

end Statechart
