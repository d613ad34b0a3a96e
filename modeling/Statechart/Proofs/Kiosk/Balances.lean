import Statechart.Proofs.Kiosk.Response

/-
  This file states what happens to balances when the kiosk
  responds to an event. Money moves between the two balances
  of the inserted card, and what is paid leaves it.

  An arithmetic need not store every number as it is. It is
  enough that it keeps the balances that a card reaches while
  no money is made. Integers always do, and every arithmetic
  does if the money of the card fits.

  Key definitions include:
    * `Card.shift`
    * `Card.Reaches`
    * `Arithmetic.Keeps`
    * `Moves`
    * `Kiosk.held`
    * `Kiosk.paid`
    * `Kiosk.Accurate`

  Key theorems include:
    * `Arithmetic.keeps_of_fits`
    * `Kiosk.Accurate.reserves`
    * `Kiosk.Accurate.funds_of_ticket`
    * `Kiosk.Response.moves`
    * `Kiosk.Response.solvent`
-/

namespace Statechart

------------------------------------------------------------
-- Balances
------------------------------------------------------------

namespace Card

/- The card after amounts were added to its balances. -/
def shift
    (c : Card)
    (available reserved : Int) : Card :=
  { c with
    available := c.available + available
    reserved := c.reserved + reserved }

@[simp]
theorem shift_zero (c : Card) :
    c.shift 0 0 = c := by
  simp [shift]

theorem shift_shift
    (c : Card)
    (a r a' r' : Int) :
    (c.shift a r).shift a' r' =
      c.shift (a + a') (r + r') := by
  simp [shift, Int.add_assoc]

/-
  The balances that a card can come to have while no money
  is made: what is available can be reserved or spent, and
  what was reserved can be released.
-/
def Reaches (c : Card) (n : Int) : Prop :=
  (min 0 c.available ≤ n ∧ n ≤ c.available) ∨
    (c.reserved ≤ n ∧ n ≤ c.reserved + max 0 c.available)

/- The money of a card fits, apart and together. -/
structure Fits (c : Card) : Prop where
  available : FitsBalance c.available
  reserved : FitsBalance c.reserved
  together : FitsBalance (c.available + c.reserved)

end Card

namespace Arithmetic

variable {arithmetic : Arithmetic}
variable {c : Card}

/-
  An arithmetic keeps the money of a card if it stores every
  balance that the card reaches.
-/
def Keeps
    (arithmetic : Arithmetic)
    (c : Card) : Prop :=
  ∀ n, c.Reaches n → arithmetic.balance n = n

/- Integers keep the money of all cards. -/
theorem keeps_exact (c : Card) :
    exact.Keeps c :=
  fun _ _ => rfl

/- Every arithmetic keeps money that fits. -/
theorem keeps_of_fits
    (arithmetic : Arithmetic)
    (hFits : c.Fits) :
    arithmetic.Keeps c := by
  intro n hReaches
  apply arithmetic.balance_eq
  have hLow :
      Int64.minValue.toInt = -9223372036854775808 :=
    rfl
  have hHigh :
      Int64.maxValue.toInt = 9223372036854775807 :=
    rfl
  have hAvailable := hFits.available
  have hReserved := hFits.reserved
  have hTogether := hFits.together
  unfold FitsBalance at *
  unfold Card.Reaches at hReaches
  omega

/- What is left of the money after a payment is kept. -/
theorem Keeps.pay
    (hKeeps : arithmetic.Keeps c)
    {amount : Int}
    (hAmount : 0 ≤ amount)
    (hLeft : min 0 c.available ≤ c.available - amount) :
    arithmetic.Keeps (c.shift (-amount) 0) := by
  intro n hReaches
  apply hKeeps
  simp only [Card.Reaches, Card.shift] at hReaches ⊢
  omega

end Arithmetic

/-
  Amounts are added to the balances of the inserted card,
  and no other card changes.
-/
def Moves
    (inserted : Option String)
    (cards cards' : LabelMap Card)
    (available reserved : Int) : Prop :=
  ∀ name,
    cards'.get? name =
      if inserted = some name then
        (cards.get? name).map (·.shift available reserved)
      else
        cards.get? name

namespace Moves

variable {inserted : Option String}
variable {cards cards' cards'' : LabelMap Card}
variable {a r a' r' : Int}

theorem refl
    (inserted : Option String)
    (cards : LabelMap Card) :
    Moves inserted cards cards 0 0 := by
  intro name
  simp

theorem trans
    (hFirst : Moves inserted cards cards' a r)
    (hThen : Moves inserted cards' cards'' a' r') :
    Moves inserted cards cards'' (a + a') (r + r') := by
  intro name
  rw [hThen name, hFirst name]
  split
  · simp [Card.shift_shift, Function.comp_def]
  · rfl

theorem congr
    (hMoves : Moves inserted cards cards' a r)
    (hAvailable : a = a')
    (hReserved : r = r') :
    Moves inserted cards cards' a' r' :=
  hAvailable ▸ hReserved ▸ hMoves

end Moves

namespace Kiosk

/-
  The inserted card changes as given, if it is known, and no
  other card does.
-/
theorem moves_modifyCard
    {k : Kiosk}
    {f : Card → Card}
    {available reserved : Int}
    (hShift :
      ∀ c, k.card? = some c →
        f c = c.shift available reserved) :
    Moves k.inserted k.cards (k.modifyCard f).cards
      available reserved := by
  intro name
  unfold card? at hShift
  unfold modifyCard
  cases hInserted : k.inserted with
  | none => simp
  | some other =>
      simp only [hInserted] at hShift
      simp only [LabelMap.get?_modify, Option.some.injEq]
      split
      · rename_i hName
        subst hName
        cases hCard : k.cards.get? other with
        | none => rfl
        | some c => simp [hShift c hCard]
      · rfl

/- Both balances are stored when an amount is reserved. -/
def Reserves (k : Kiosk) (amount : Int) : Prop :=
  ∀ c, k.card? = some c →
    k.arithmetic.balance (c.available - amount) =
        c.available - amount ∧
      k.arithmetic.balance (c.reserved + amount) =
        c.reserved + amount

theorem moves_reserve
    {k : Kiosk}
    {amount : Int}
    (hReserves : k.Reserves amount) :
    Moves k.inserted k.cards (k.reserve amount).cards
      (-amount) amount := by
  apply moves_modifyCard
  intro c hCard
  rcases hReserves c hCard with ⟨hAvailable, hReserved⟩
  simp only [hAvailable, hReserved]
  simp only [Card.shift, Int.sub_eq_add_neg]

theorem moves_spend
    {k : Kiosk}
    {amount : Int}
    (hReserves : k.Reserves (-amount)) :
    Moves k.inserted k.cards (k.spend amount).cards
      0 (-amount) := by
  apply moves_modifyCard
  intro c hCard
  have hReserved := (hReserves c hCard).2
  simp only [Int.sub_eq_add_neg, hReserved, Card.shift,
    Int.add_zero]

------------------------------------------------------------
-- What Responses Do to Balances
------------------------------------------------------------

/- What is reserved for the order at a screen. -/
def held (k : Kiosk) : Screen → Int
  | .pending => k.total
  | _ => 0

/- What is paid for good with an event. -/
def paid (k : Kiosk) : Event → Int
  | .confirmPurchase => k.total
  | _ => 0

/- What is reserved on a card at a screen. -/
def heldFor
    (k : Kiosk)
    (screen : Screen)
    (name : String) : Int :=
  if k.inserted = some name then k.held screen else 0

@[simp]
theorem total_reserve
    (k : Kiosk)
    (amount : Int) :
    (k.reserve amount).total = k.total := by
  unfold total reserve
  rw [modifyCard_tickets]

theorem total_addTicket
    {k : Kiosk}
    (hFew : k.tickets < maxTickets) :
    k.addTicket.total = k.total + ticketPrice := by
  have hAdded := tickets_addTicket hFew
  unfold total ticketPrice
  omega

theorem total_removeTicket
    {k : Kiosk}
    (hSome : 1 ≤ k.tickets)
    (hFew : k.tickets ≤ maxTickets) :
    k.removeTicket.total = k.total - ticketPrice := by
  have hRemoved := tickets_removeTicket hSome hFew
  unfold total ticketPrice
  omega

theorem total_nonneg
    (k : Kiosk) :
    0 ≤ k.total := by
  unfold total ticketPrice
  omega

theorem held_nonneg
    (k : Kiosk)
    (screen : Screen) :
    0 ≤ k.held screen := by
  have hTotal := k.total_nonneg
  cases screen <;> simp only [held] <;> omega

------------------------------------------------------------
-- Accurate Kiosks
------------------------------------------------------------

/-
  A kiosk is accurate if a pending order is for a permitted
  number of tickets, and if the arithmetic keeps what the
  inserted card has when its reservation is released. The
  card is overdrawn only if it would be so even then.
-/
structure Accurate
    (k : Kiosk)
    (screen : Screen) : Prop where
  tickets :
    screen = .pending →
      1 ≤ k.tickets ∧ k.tickets ≤ maxTickets
  keeps :
    ∀ c, k.card? = some c →
      k.arithmetic.Keeps
        (c.shift (k.held screen) (-k.held screen))
  solvent :
    ∀ c, k.card? = some c →
      min 0 (c.available + k.held screen) ≤ c.available

/-
  What is held can be released, and what is available can be
  reserved.
-/
theorem Accurate.reserves
    {k : Kiosk}
    {screen : Screen}
    (hAccurate : k.Accurate screen)
    {amount : Int}
    (hHeld : -k.held screen ≤ amount)
    (hFunds :
      ∀ c, k.card? = some c → amount ≤ max 0 c.available) :
    k.Reserves amount := by
  intro c hCard
  have hKeeps := hAccurate.keeps c hCard
  have hSolvent := hAccurate.solvent c hCard
  have hEnough := hFunds c hCard
  constructor <;>
    (apply hKeeps
     simp only [Card.Reaches, Card.shift]
     omega)

/- The whole reservation can be released. -/
theorem Accurate.releases
    {k : Kiosk}
    (hAccurate : k.Accurate .pending) :
    k.Reserves (-k.total) := by
  have hTotal := k.total_nonneg
  have hHeld : k.held .pending = k.total := rfl
  apply hAccurate.reserves (by omega)
  intro c _
  omega

/- Before an order is checked, nothing is held for it. -/
theorem Accurate.openOrder
    {k : Kiosk}
    (hAccurate : k.Accurate .waitForPin) :
    (k.after .openOrder).Accurate .checking where
  tickets hPending := by cases hPending
  keeps := hAccurate.keeps
  solvent := hAccurate.solvent

/-
  When a ticket is added, the inserted card first gets back
  what is held on it.
-/
theorem Accurate.card?_addTicket
    {k : Kiosk}
    (hAccurate : k.Accurate .pending) :
    k.addTicket.card? =
      k.card?.map (·.shift k.total (-k.total)) := by
  have hReleased :
      k.addTicket.card? = k.card?.map _ :=
    k.card?_modifyCard _
  rw [hReleased]
  apply Option.map_congr
  intro c hCard
  rcases hAccurate.releases c hCard with
    ⟨hAvailable, hReserved⟩
  simp only [hAvailable, hReserved]
  simp only [Card.shift, Int.sub_neg]

theorem Accurate.addTicket
    {k : Kiosk}
    (hAccurate : k.Accurate .pending) :
    k.addTicket.Accurate .checking where
  tickets hPending := by cases hPending
  keeps := by
    intro c hCard
    rw [hAccurate.card?_addTicket] at hCard
    rcases Option.map_eq_some_iff.mp hCard with
      ⟨before, hBefore, rfl⟩
    have hKeeps := hAccurate.keeps before hBefore
    have hSame : k.addTicket.arithmetic = k.arithmetic :=
      k.modifyCard_arithmetic _
    rw [hSame]
    simpa only [Card.shift_shift, held, Int.add_zero,
      Int.neg_zero] using hKeeps
  solvent := by
    intro c _
    simp only [held]
    omega

/-
  If an order passes the check of funds, its price can be
  reserved.
-/
theorem Accurate.reserves_total
    {k : Kiosk}
    (hAccurate : k.Accurate .checking)
    (hFunds : k.refusal? .preapprove = none) :
    k.Reserves k.total := by
  have hTotal := k.total_nonneg
  have hNone : k.held .checking = 0 := rfl
  apply hAccurate.reserves (by omega)
  intro c hCard
  have hEnough :=
    refusalWith?_preapprove_iff.mp
      (refusalWith?_eq_none hFunds hCard)
  omega

/-
  A ticket that can be added can be paid for: the money that
  was reserved and the price of one ticket more are there
  when the reservation is released.
-/
theorem Accurate.funds_of_ticket
    {k : Kiosk}
    (hAccurate : k.Accurate .pending)
    (hOpen : k.refusal? .addTicket = none) :
    k.addTicket.refusal? .preapprove = none := by
  rcases refusal?_eq_none_iff.mp hOpen with
    ⟨c, hCard, hOpenWith⟩
  rcases refusalWith?_addTicket_iff.mp hOpenWith with
    ⟨hFew, hFunds⟩
  have hReleased := hAccurate.card?_addTicket
  have hTotal := total_addTicket hFew
  rw [hCard] at hReleased
  refine
    refusal?_eq_none_iff.mpr
      ⟨_, hReleased, refusalWith?_preapprove_iff.mpr ?_⟩
  simp only [Card.shift]
  omega

namespace Response

variable {k k' : Kiosk}
variable {screen screen' : Screen}
variable {event : Event}
variable {reports : List (Event × Bool)}

/-
  A response moves money on the inserted card only: as much
  as the reservation changes, and what is paid is gone.
-/
theorem moves
    (hResponse :
      Response k screen event reports screen' k')
    (hAccurate : k.Accurate screen) :
    Moves k.inserted k.cards k'.cards
      (k.held screen - k'.held screen' - k.paid event)
      (k'.held screen' - k.held screen) := by
  cases hResponse with
  | ready | askedAgain | cardAccepted | pinCancelled
  | orderRejected =>
      exact Moves.refl k.inserted k.cards
  | orderApproved _ hFunds =>
      have hTotal :=
        (k.after .openOrder).total_reserve
          (k.after .openOrder).total
      have hMoves :=
        moves_reserve
          (hAccurate.openOrder.reserves_total hFunds)
      apply hMoves.congr <;>
        simp only [held, paid, reserveTotal, hTotal] <;>
        omega
  | ticketAdded _ hFunds =>
      have hReleased := moves_reserve hAccurate.releases
      have hReserved :=
        moves_reserve
          (hAccurate.addTicket.reserves_total hFunds)
      have hTotal :=
        k.addTicket.total_reserve k.addTicket.total
      have hSame : k.addTicket.inserted = k.inserted :=
        k.modifyCard_inserted _
      rw [hSame] at hReserved
      apply (hReleased.trans hReserved).congr <;>
        simp only [held, paid, reserveTotal, hTotal] <;>
        omega
  | ticketRemoved =>
      rcases hAccurate.tickets rfl with ⟨hSome, hFew⟩
      have hTotal := total_removeTicket hSome hFew
      have hPrice : 0 ≤ k.removeTicket.total :=
        total_nonneg _
      have hReserves : k.Reserves (-ticketPrice) := by
        have hHeld : k.held .pending = k.total := rfl
        apply hAccurate.reserves (by omega)
        intro c _
        unfold ticketPrice
        omega
      have hMoves :
          Moves k.inserted k.cards k.removeTicket.cards
            (- -ticketPrice) (-ticketPrice) :=
        moves_reserve hReserves
      apply hMoves.congr <;>
        simp only [held, paid, hTotal] <;>
        omega
  | purchased =>
      apply (moves_spend hAccurate.releases).congr <;>
        simp only [held, paid] <;>
        omega
  | ticketRejected | orderCancelled =>
      apply (moves_reserve hAccurate.releases).congr <;>
        simp only [held, paid] <;>
        omega

/- No response takes more than is available. -/
theorem solvent
    (hResponse :
      Response k screen event reports screen' k')
    (hAccurate : k.Accurate screen)
    {c : Card}
    (hCard : k.card? = some c) :
    min 0 c.available ≤
      c.available +
        (k.held screen - k'.held screen' -
          k.paid event) := by
  cases hResponse with
  | ready | askedAgain | cardAccepted | pinCancelled
  | orderRejected =>
      simp only [held, paid]
      omega
  | orderApproved _ hFunds =>
      have hEnough :=
        refusalWith?_preapprove_iff.mp
          (refusalWith?_eq_none hFunds hCard)
      simp only [held, paid, reserveTotal, total_reserve]
      omega
  | ticketAdded hOpen =>
      rcases refusalWith?_addTicket_iff.mp
          (refusalWith?_eq_none hOpen hCard) with
        ⟨hFew, hEnough⟩
      have hTotal := total_addTicket hFew
      simp only [held, paid, reserveTotal, total_reserve]
      omega
  | ticketRemoved =>
      rcases hAccurate.tickets rfl with ⟨hSome, hFew⟩
      have hTotal := total_removeTicket hSome hFew
      simp only [held, paid, hTotal, ticketPrice]
      omega
  | purchased =>
      simp only [held, paid]
      omega
  | ticketRejected | orderCancelled =>
      have hTotal := k.total_nonneg
      simp only [held, paid]
      omega

/- The kiosk itself confirms nothing and adds no ticket. -/
theorem reports_automatic
    (hResponse :
      Response k screen event reports screen' k') :
    ∀ report ∈ reports,
      report.1 ≠ .confirmPurchase ∧
        report.1 ≠ .addTicket := by
  cases hResponse <;> decide

/- The kiosk reserves the price of a ticket at once. -/
theorem reports_of_addTicket
    (hResponse :
      Response k screen .addTicket reports screen' k')
    (hAccurate : k.Accurate screen) :
    reports = [(.preapprove, true)] := by
  cases hResponse with
  | ticketAdded => rfl
  | ticketRejected hOpen hRefused =>
      have hFunds := hAccurate.funds_of_ticket hOpen
      cases hRefused.symm.trans hFunds

/- No response changes how numbers are stored. -/
theorem arithmetic_eq
    (hResponse :
      Response k screen event reports screen' k') :
    k'.arithmetic = k.arithmetic := by
  cases hResponse <;>
    simp [after, eject, reserveTotal, addTicket,
      removeTicket, cancelOrder, reserve, spend]

/- Money stays reserved on the card that is inserted. -/
theorem heldFor_eq
    (hResponse :
      Response k screen event reports screen' k')
    (name : String) :
    k'.heldFor screen' name =
      if k.inserted = some name then
        k'.held screen'
      else
        0 := by
  cases hResponse with
  | ready | askedAgain | cardAccepted => rfl
  | pinCancelled | orderRejected | ticketRejected
  | purchased | orderCancelled =>
      simp [heldFor, held]
  | orderApproved | ticketRemoved =>
      unfold heldFor
      simp only [reserveTotal, removeTicket, reserve,
        modifyCard_inserted, after]
  | ticketAdded =>
      unfold heldFor
      simp only [reserveTotal, addTicket, reserve,
        modifyCard_inserted]

end Response

end Kiosk

end Statechart
