import Statechart.Dot.Drawing
import Statechart.Kiosk.Visit
import Statechart.Showcase.Basic

/-
  This file defines a day at the ticket kiosk: five cards,
  and the customers who try them.

  Key definitions include:
    * `KioskDay.cards`
    * `KioskDay.scenes`
    * `KioskDay.performance`
-/

namespace Statechart

namespace KioskDay

------------------------------------------------------------
-- The Plot
------------------------------------------------------------

/- The cards of the day, with balances in cents. -/
def cards : List (String × Card) :=
  [ ("of_course", ⟨"AmEx", "1234", 8500, 0⟩),
    ("hacker", ⟨"VISA", "", 9999900, -9999900⟩),
    ("broke", ⟨"VISA", "1234", 100, 0⟩),
    ("high_roller", ⟨"VISA", "1234", 100000, 90000⟩),
    ("simple", ⟨"VISA", "1234", 2000, 0⟩) ]

/-
  What happens: a comment is printed, a customer does
  something, or a balance is printed.
-/
inductive Act where
  | say (text : String)
  | call (c : Session.Call)
  | balance (card : String)

/- Submit an event. -/
def submit (e : Event) : Act :=
  .call (.submit e)

/- Insert a card. -/
def insert (card : String) : Act :=
  .call (.insertCard card)

/- Enter a pin. -/
def pin (digits : String) : Act :=
  .call (.inputPin digits)

/- Switch the kiosk on. -/
def morning : List Act :=
  [ submit .systemReady,
    .say
      ("Display: [Goes to sleep because nobody is around]" ++
        "\n"),
    .say "Let's wake up the machine!",
    submit .cancelEject ]

/- Cards that do not work, and one that does not pay. -/
def firstCustomer : List Act :=
  [ .say "\nLet's use this card:",
    insert "of_course",
    .say "Hah, had to try. Let's try this card next",
    insert "broke",
    pin "1111",
    .say "So embarrassing, what was that pin again?",
    pin "1234",
    .say
      ("Oops. *Run home to get other cards*\n\n" ++
        "Suddenly, a shady customer walks up") ]

/- A card with a damaged pin. -/
def shadyCustomer : List Act :=
  [ insert "hacker",
    .say "*Shady customer runs away*" ]

/- Ten tickets in two orders of five. -/
def wellDressedCustomer : List Act :=
  [ .say
      ("\nA well dressed person appears, " ++
        "they need to buy 10 tickets"),
    insert "high_roller",
    pin "1234" ] ++
  List.replicate 5 (submit .addTicket) ++
  [ submit .confirmPurchase,
    .say "*Smart person thinks for a second, and tries again*",
    insert "high_roller",
    pin "1234" ] ++
  List.replicate 4 (submit .addTicket) ++
  [submit .confirmPurchase]

/- An order that changes its mind. -/
def lastCustomer : List Act :=
  [ .say "\nAnd we're back with our good card",
    insert "simple",
    pin "1234",
    submit .addTicket,
    .say "*Oh no stupid sticky button*" ] ++
  List.replicate 3 (submit .addTicket) ++
  [ submit .removeTicket,
    submit .removeTicket,
    .balance "simple",
    submit .confirmPurchase,
    .balance "simple" ]

/- All that happens on the day. -/
def scenes : List Act :=
  morning ++ firstCustomer ++ shadyCustomer ++
    wellDressedCustomer ++ lastCustomer

------------------------------------------------------------
-- The Performance
------------------------------------------------------------

/- The lines of an act and the session after it. -/
def play
    (s : Session) :
    Act → List String × Session
  | .say text => ([text], s)
  | .balance card => (s.balance card, s)
  | .call c =>
      let turn := s.call c
      (turn.lines, turn.session)

/- The lines of several acts. -/
def playAll
    (s : Session) :
    List Act → List String
  | [] => []
  | act :: rest =>
      let (lines, next) := play s act
      lines ++ playAll next rest

/- The day at the kiosk. -/
def performance : Performance :=
  match Session.loadChart, Session.open? (.ofCards cards) with
  | .error e, _ => .failed e.message
  | .ok c, .error e =>
      ⟨[.line (c.dot .plain)], some e.message⟩
  | .ok c, .ok s =>
      .ofPrinted
        ((c.dot .plain :: playAll s scenes).map .line)

end KioskDay

end Statechart
