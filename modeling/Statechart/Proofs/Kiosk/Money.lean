import Statechart.Proofs.Kiosk.Balances
import Statechart.Proofs.Kiosk.Custody

/-
  This file states that money is conserved at the kiosk. As
  long as cards are put in only while the kiosk waits for
  one, no money of a card is lost or made: what a card has
  available and reserved, and what has been paid with it,
  add up to what the card had at first. Money is reserved
  for the tickets of a pending order and for nothing else.

  This is so if balances are integers, and with every other
  arithmetic too as long as the money of each card fits.

  Key definitions include:
    * `Session.spent`
    * `Session.Balanced`
    * `Session.AddsApproved`
    * `Session.Conserved`

  Key theorems include:
    * `Session.Balanced.accurate`
    * `Session.Outcome.balanced`
    * `Session.Visits.balanced`
    * `Session.visit_conserves_money`
    * `Session.fitting_cards_keep_their_money`
-/

namespace Statechart

------------------------------------------------------------
-- What Has Been Paid
------------------------------------------------------------

namespace Session

/- What was paid with a card by a deed. -/
def Deed.payment
    (d : Deed)
    (name : String) : Int :=
  if d.event = .confirmPurchase ∧
      d.succeeds = true ∧
      d.before.kiosk.inserted = some name then
    d.before.kiosk.tickets * Kiosk.ticketPrice
  else
    0

/- What was paid with a card by some deeds. -/
def spent
    (deeds : List Deed)
    (name : String) : Int :=
  deeds.foldr (fun d total => d.payment name + total) 0

theorem spent_append
    (deeds later : List Deed)
    (name : String) :
    spent (deeds ++ later) name =
      spent deeds name + spent later name := by
  induction deeds with
  | nil => simp [spent]
  | cons d deeds ih =>
      simp only [spent, List.cons_append,
        List.foldr_cons] at ih ⊢
      omega

theorem spent_eq_zero
    {deeds : List Deed}
    (hNone : ∀ d ∈ deeds, d.event ≠ .confirmPurchase)
    (name : String) :
    spent deeds name = 0 := by
  induction deeds with
  | nil => rfl
  | cons d deeds ih =>
      have hFirst := hNone d List.mem_cons_self
      have hRest :=
        ih fun d' hLater =>
          hNone d' (List.mem_cons_of_mem d hLater)
      have hPayment : d.payment name = 0 :=
        if_neg fun hPaid => hFirst hPaid.1
      have hSpent :
          spent (d :: deeds) name =
            d.payment name + spent deeds name :=
        rfl
      omega

theorem spent_nonneg
    (deeds : List Deed)
    (name : String) :
    0 ≤ spent deeds name := by
  induction deeds with
  | nil => exact Int.le_refl 0
  | cons d deeds ih =>
      have hPayment : 0 ≤ d.payment name := by
        unfold Deed.payment Kiosk.ticketPrice
        split <;> omega
      have hSpent :
          spent (d :: deeds) name =
            d.payment name + spent deeds name :=
        rfl
      omega

theorem Deed.payment_of_error
    {s : Session}
    {e : Event}
    {fault : Fault}
    (hResult : (s.perform e).result = .error fault)
    (name : String) :
    (Deed.mk s e).payment name = 0 := by
  have hFails := Deed.succeeds_eq_false hResult
  simp [payment, hFails]

/- A deed that succeeds pays what its event costs. -/
theorem Deed.payment_of_ok
    {s : Session}
    {e : Event}
    (hResult : (s.perform e).result = .ok ())
    (name : String) :
    (Deed.mk s e).payment name =
      if s.kiosk.inserted = some name then
        s.kiosk.paid e
      else
        0 := by
  have hSucceeds := Deed.succeeds_eq_true hResult
  cases e <;>
    simp [payment, hSucceeds, Kiosk.paid, Kiosk.total]

/- Follow-ups do not confirm purchases or add tickets. -/
theorem event_of_report
    {k k' : Kiosk}
    {screen screen' : Screen}
    {e : Event}
    {later : List Deed}
    (hResponse :
      Kiosk.Response k screen e
        (later.map Deed.report) screen' k') :
    ∀ d ∈ later,
      d.event ≠ .confirmPurchase ∧
        d.event ≠ .addTicket := by
  intro d hMember
  have hReport : d.report ∈ later.map Deed.report :=
    List.mem_map_of_mem hMember
  exact hResponse.reports_automatic _ hReport

------------------------------------------------------------
-- Balanced Books
------------------------------------------------------------

/-
  The books are balanced if every card has what it had at
  first, less what was paid with it and what is reserved on
  it, and if no card is overdrawn that was not so at first.
  The arithmetic has to keep what the cards had at first.
-/
structure Balanced
    (initial : LabelMap Card)
    (done : List Deed)
    (k : Kiosk)
    (screen : Screen) : Prop where
  cards :
    ∀ name,
      k.cards.get? name =
        (initial.get? name).map
          (·.shift
            (-spent done name - k.heldFor screen name)
            (k.heldFor screen name))
  solvent :
    ∀ {name : String} {c₀ c : Card},
      initial.get? name = some c₀ →
      k.cards.get? name = some c →
      min 0 c₀.available ≤ c.available
  keeps :
    ∀ {name : String} {c₀ : Card},
      initial.get? name = some c₀ →
      k.arithmetic.Keeps c₀

namespace Balanced

variable {initial : LabelMap Card}
variable {done now : List Deed}
variable {k k' : Kiosk}
variable {screen screen' : Screen}
variable {e : Event}
variable {reports : List (Event × Bool)}

/- Nothing is reserved on a card that is not changed. -/
theorem of_cards_eq
    (hBalanced : Balanced initial done k screen)
    (hCards : k'.cards = k.cards)
    (hArithmetic : k'.arithmetic = k.arithmetic)
    (hHeld :
      ∀ name, k'.heldFor screen name =
        k.heldFor screen name) :
    Balanced initial done k' screen where
  cards name := by
    rw [hCards, hHeld name]
    exact hBalanced.cards name
  solvent hInitial hCard := by
    rw [hCards] at hCard
    exact hBalanced.solvent hInitial hCard
  keeps hInitial := by
    rw [hArithmetic]
    exact hBalanced.keeps hInitial

/-
  With balanced books, the inserted card has what it had at
  first, less what was paid with it and what is held.
-/
theorem exists_initial
    {c : Card}
    (hBalanced : Balanced initial done k screen)
    (hCard : k.card? = some c) :
    ∃ name c₀,
      k.cards.get? name = some c ∧
        initial.get? name = some c₀ ∧
        c₀.shift (-spent done name - k.held screen)
            (k.held screen) =
          c := by
  rcases Kiosk.card?_eq_some_iff.mp hCard with
    ⟨name, hInserted, hKnown⟩
  have hBooks := hBalanced.cards name
  have hHeld : k.heldFor screen name = k.held screen :=
    if_pos hInserted
  rw [hKnown, hHeld] at hBooks
  rcases Option.map_eq_some_iff.mp hBooks.symm with
    ⟨c₀, hInitial, hShifted⟩
  exact ⟨name, c₀, hKnown, hInitial, hShifted⟩

/-
  With balanced books, the kiosk is accurate: when what is
  held is released, the inserted card has what it had at
  first, less what was paid with it.
-/
theorem accurate
    (hBalanced : Balanced initial done k screen)
    (hTickets :
      screen = .pending →
        1 ≤ k.tickets ∧ k.tickets ≤ Kiosk.maxTickets) :
    k.Accurate screen where
  tickets := hTickets
  keeps := by
    intro c hCard
    rcases hBalanced.exists_initial hCard with
      ⟨name, c₀, hKnown, hInitial, rfl⟩
    have hSpent := spent_nonneg done name
    have hHeld := k.held_nonneg screen
    have hSolvent := hBalanced.solvent hInitial hKnown
    simp only [Card.shift] at hSolvent
    have hLeft :=
      (hBalanced.keeps hInitial).pay hSpent (by omega)
    have hReleased :
        (c₀.shift (-spent done name - k.held screen)
              (k.held screen)).shift
            (k.held screen) (-k.held screen) =
          c₀.shift (-spent done name) 0 := by
      rw [Card.shift_shift]
      congr 1 <;> omega
    rw [hReleased]
    exact hLeft
  solvent := by
    intro c hCard
    rcases hBalanced.exists_initial hCard with
      ⟨name, c₀, hKnown, hInitial, rfl⟩
    have hSpent := spent_nonneg done name
    have hSolvent := hBalanced.solvent hInitial hKnown
    simp only [Card.shift] at hSolvent ⊢
    omega

/- Every response keeps the books balanced. -/
theorem respond
    (hBalanced : Balanced initial done k screen)
    (hResponse :
      Kiosk.Response k screen e reports screen' k')
    (hAccurate : k.Accurate screen)
    (hSpent :
      ∀ name, spent now name =
        if k.inserted = some name then k.paid e else 0) :
    Balanced initial (done ++ now) k' screen' where
  cards name := by
    rw [hResponse.moves hAccurate name,
      hBalanced.cards name, hResponse.heldFor_eq name,
      spent_append, hSpent name]
    by_cases hInserted : k.inserted = some name
    · simp only [Kiosk.heldFor, hInserted, if_true,
        Option.map_map, Function.comp_def,
        Card.shift_shift]
      congr 1
      funext c
      congr 1 <;> omega
    · simp only [Kiosk.heldFor, hInserted, if_false,
        Int.add_zero]
  solvent := by
    intro name c₀ c hInitial hCard
    rw [hResponse.moves hAccurate name] at hCard
    by_cases hInserted : k.inserted = some name
    · rw [if_pos hInserted] at hCard
      rcases Option.map_eq_some_iff.mp hCard with
        ⟨earlier, hEarlier, rfl⟩
      have hInside : k.card? = some earlier :=
        Kiosk.card?_eq_some_iff.mpr
          ⟨name, hInserted, hEarlier⟩
      have hBefore := hBalanced.solvent hInitial hEarlier
      have hAfter := hResponse.solvent hAccurate hInside
      simp only [Card.shift]
      omega
    · rw [if_neg hInserted] at hCard
      exact hBalanced.solvent hInitial hCard
  keeps hInitial := by
    rw [hResponse.arithmetic_eq]
    exact hBalanced.keeps hInitial

end Balanced

section Calls

variable {initial : LabelMap Card}
variable {done deeds : List Deed}
variable {s : Session}
variable {screen screen' : Screen}
variable {c : Call}
variable {turn : Turn}

/-
  Nothing is reserved but for a pending order, so that cards
  can be put in and given back elsewhere.
-/
theorem heldFor_of_ne_pending
    {k : Kiosk}
    (hScreen : screen ≠ .pending)
    (name : String) :
    k.heldFor screen name = 0 := by
  unfold Kiosk.heldFor
  cases screen with
  | pending => exact absurd rfl hScreen
  | _ => simp [Kiosk.held]

theorem Balanced.ready
    (hBalanced : Balanced initial done s.kiosk screen)
    (hScreen : c.insertsCard = true → screen ≠ .pending) :
    Balanced initial done (s.ready c).kiosk screen := by
  cases c with
  | submit event => exact hBalanced
  | inputPin pin =>
      exact hBalanced.of_cards_eq rfl rfl fun _ => rfl
  | insertCard name =>
      have hCards :
          (s.ready (.insertCard name)).kiosk.cards =
            s.kiosk.cards :=
        rfl
      apply hBalanced.of_cards_eq hCards rfl
      intro name
      simp only [heldFor_of_ne_pending (hScreen rfl)]

theorem Balanced.finish
    (hBalanced : Balanced initial done s.kiosk screen)
    (hScreen : c.insertsCard = true → screen ≠ .pending) :
    Balanced initial done (s.finish c).kiosk screen := by
  cases c with
  | submit event => exact hBalanced
  | inputPin pin => exact hBalanced
  | insertCard name =>
      have hSame :
          (s.finish (.insertCard name)).kiosk.cards =
              s.kiosk.cards ∧
            (s.finish (.insertCard name)).kiosk.arithmetic =
              s.kiosk.arithmetic := by
        simp only [Session.finish]
        split <;> exact ⟨rfl, rfl⟩
      apply hBalanced.of_cards_eq hSame.1 hSame.2
      intro name
      simp only [heldFor_of_ne_pending (hScreen rfl)]

/- An event keeps the books balanced when it is fired. -/
theorem Outcome.balanced_fired
    {e : Event}
    (hOutcome : Outcome s screen e deeds turn)
    (hRests : s.Rests screen)
    (hThen : turn.session.Rests screen')
    (hBalanced : Balanced initial done s.kiosk screen) :
    Balanced initial (done ++ deeds)
      turn.session.kiosk screen' := by
  cases hOutcome with
  | refused hResult _ hSession _ =>
      rw [hSession] at hThen ⊢
      cases hThen.place.unique hRests.place
      have hSpent :
          ∀ name, spent (done ++ [⟨s, e⟩]) name =
            spent done name := by
        intro name
        have hPayment := Deed.payment_of_error hResult name
        rw [spent_append]
        simp [spent, hPayment]
      refine ⟨?_, hBalanced.solvent, hBalanced.keeps⟩
      intro name
      rw [hSpent name]
      exact hBalanced.cards name
  | @answered later _ _ hResult _ hAt hResponse _ =>
      cases hThen.place.unique hAt
      apply
        hBalanced.respond hResponse
          (hBalanced.accurate hRests.tickets)
      intro name
      have hPayment := Deed.payment_of_ok hResult name
      have hLater : spent later name = 0 :=
        spent_eq_zero
          (fun d hMember =>
            (event_of_report hResponse d hMember).1)
          name
      have hSpent :
          spent (⟨s, e⟩ :: later) name =
            (Deed.mk s e).payment name + spent later name :=
        rfl
      omega

/- After putting in a card, no order is pending. -/
theorem Outcome.ne_pending
    (hOutcome :
      Outcome (s.ready c) screen c.event deeds turn)
    (hRests : (s.ready c).Rests screen)
    (hThen : turn.session.Rests screen')
    (hInsertion : c.insertsCard = true)
    (hScreen : screen ≠ .pending) :
    screen' ≠ .pending := by
  cases hOutcome with
  | refused _ _ hSession _ =>
      rw [hSession] at hThen
      cases hThen.place.unique hRests.place
      exact hScreen
  | answered _ _ hAt hResponse _ =>
      cases hThen.place.unique hAt
      cases c with
      | insertCard name =>
          cases hResponse.eq_waitForPin
          decide
      | submit | inputPin => cases hInsertion

/- Every call keeps the books balanced. -/
theorem Outcome.balanced
    (hOutcome :
      Outcome (s.ready c) screen c.event deeds turn)
    (hRests : (s.ready c).Rests screen)
    (hThen : (turn.session.finish c).Rests screen')
    (hScreen : c.insertsCard = true → screen ≠ .pending)
    (hBalanced : Balanced initial done s.kiosk screen) :
    Balanced initial (done ++ deeds)
      (turn.session.finish c).kiosk screen' := by
  rcases hOutcome.rests hRests with ⟨reached, hReached⟩
  cases hThen.place.unique (hReached.finish c).place
  have hFired :=
    hOutcome.balanced_fired hRests hReached
      (hBalanced.ready hScreen)
  exact
    hFired.finish fun hInsertion =>
      hOutcome.ne_pending hRests hReached hInsertion
        (hScreen hInsertion)

end Calls

------------------------------------------------------------
-- Added Tickets
------------------------------------------------------------

/-
  Every ticket that was added is reserved with the very next
  deed, so that no rejection follows it.
-/
def AddsApproved : List Deed → Prop
  | [] => True
  | d :: rest =>
      (d.event = .addTicket →
        d.succeeds = true →
        ∃ next later,
          rest = next :: later ∧
            next.event = .preapprove ∧
            next.succeeds = true) ∧
        AddsApproved rest

theorem AddsApproved.append
    {deeds later : List Deed}
    (hDeeds : AddsApproved deeds)
    (hLater : AddsApproved later) :
    AddsApproved (deeds ++ later) := by
  induction deeds with
  | nil => exact hLater
  | cons d deeds ih =>
      refine ⟨?_, ih hDeeds.2⟩
      intro hEvent hSucceeds
      rcases hDeeds.1 hEvent hSucceeds with
        ⟨next, others, rfl, hNext⟩
      exact ⟨next, others ++ later, rfl, hNext⟩

theorem addsApproved_of_none
    {deeds : List Deed}
    (hNone : ∀ d ∈ deeds, d.event ≠ .addTicket) :
    AddsApproved deeds := by
  induction deeds with
  | nil => trivial
  | cons d deeds ih =>
      refine ⟨?_, ih ?_⟩
      · intro hEvent
        exact absurd hEvent (hNone d List.mem_cons_self)
      · intro d' hLater
        exact hNone d' (List.mem_cons_of_mem d hLater)

theorem Outcome.addsApproved
    {s : Session}
    {screen : Screen}
    {e : Event}
    {deeds : List Deed}
    {turn : Turn}
    (hOutcome : Outcome s screen e deeds turn)
    (hAccurate : s.kiosk.Accurate screen) :
    AddsApproved deeds := by
  cases hOutcome with
  | refused hResult =>
      have hFails := Deed.succeeds_eq_false hResult
      refine ⟨?_, trivial⟩
      intro _ hSucceeds
      cases hFails.symm.trans hSucceeds
  | @answered later _ _ _ _ _ hResponse _ =>
      have hLater :=
        addsApproved_of_none fun d hMember =>
          (event_of_report hResponse d hMember).2
      refine ⟨?_, hLater⟩
      intro hEvent _
      cases hEvent
      rcases List.map_eq_singleton_iff.mp
          (hResponse.reports_of_addTicket hAccurate) with
        ⟨next, rfl, hReport⟩
      have hEvent := congrArg Prod.fst hReport
      have hSucceeds := congrArg Prod.snd hReport
      exact ⟨next, [], rfl, hEvent, hSucceeds⟩

------------------------------------------------------------
-- Conservation
------------------------------------------------------------

/-
  While cards are put in only where the kiosk waits for one,
  the books are balanced throughout a visit. By induction on
  the visit, together with the card that the kiosk holds.
-/
theorem Visits.balanced
    {initial : LabelMap Card}
    {s s' : Session}
    {screen : Screen}
    {calls : List Call}
    {deeds : List Deed}
    (hVisits : Visits s calls deeds s')
    (hRests : s.Rests screen)
    (hServes : s.kiosk.Serves screen)
    (hBalanced : Balanced initial [] s.kiosk screen)
    (hInserts :
      insertsWhile
          (·.machine.isIn Screen.waiting.label) s calls =
        true) :
    ∃ screen',
      s'.Rests screen' ∧
        s'.kiosk.Serves screen' ∧
        Balanced initial deeds s'.kiosk screen' ∧
        AddsApproved deeds := by
  have hEnd :
      ∃ screen',
        s'.Rests screen' ∧
          s'.kiosk.Serves screen' ∧
          Balanced initial deeds s'.kiosk screen' ∧
          AddsApproved deeds ∧
          insertsWhile
              (·.machine.isIn Screen.waiting.label) s' [] =
            true := by
    refine
      hVisits.invariant
        (fun done screen s rest =>
          s.kiosk.Serves screen ∧
            Balanced initial done s.kiosk screen ∧
            AddsApproved done ∧
            insertsWhile
                (·.machine.isIn Screen.waiting.label)
                s rest =
              true)
        ?_ hRests ⟨hServes, hBalanced, trivial, hInserts⟩
    intro done deeds s screen screen' c rest turn hReady
      hOutcome hCall hThen hInv
    rcases hInv with ⟨hServes, hBalanced, hAdds, hInserts⟩
    rcases insertsWhile_cons_iff.mp hInserts with
      ⟨hInsert, hLater⟩
    rw [hCall] at hLater
    have hWaiting
        (hInsertion : c.insertsCard = true) :
        screen = .waiting := by
      have hIn := hInsert hInsertion
      rw [← s.ready_machine c] at hIn
      exact (hReady.place.isIn_iff _).mp hIn
    have hAccurate : (s.ready c).kiosk.Accurate screen := by
      apply (hBalanced.ready ?_).accurate hReady.tickets
      intro hInsertion
      rw [hWaiting hInsertion]
      decide
    refine
      ⟨hOutcome.serves hReady hThen hServes ?_,
        hOutcome.balanced hReady hThen ?_ hBalanced,
        hAdds.append (hOutcome.addsApproved hAccurate),
        hLater⟩
    · intro hInsertion
      exact hServes.free (Or.inr (hWaiting hInsertion))
    · intro hInsertion
      rw [hWaiting hInsertion]
      decide
  rcases hEnd with
    ⟨screen', hThen, hServed, hBooks, hAdds, _⟩
  exact ⟨screen', hThen, hServed, hBooks, hAdds⟩

/- The books are balanced when a session is opened. -/
theorem balanced_of_open?
    {k : Kiosk}
    {s : Session}
    (hOpen : open? k = .ok s)
    (hKeeps :
      ∀ name c,
        k.cards.get? name = some c →
          k.arithmetic.Keeps c) :
    Balanced k.cards [] s.kiosk .idle := by
  rw [open?_eq] at hOpen
  cases hOpen
  constructor
  · intro name
    have hNone : k.heldFor .idle name = 0 :=
      heldFor_of_ne_pending (by decide) name
    simp [hNone, spent]
  · intro name c₀ c hInitial hCard
    cases hInitial.symm.trans hCard
    omega
  · intro name c₀ hInitial
    exact hKeeps name c₀ hInitial

/- What is reserved, told from what a session shows. -/
theorem At.heldFor_eq
    {s : Session}
    {screen : Screen}
    (hAt : s.At screen)
    (name : String) :
    s.kiosk.heldFor screen name =
      if s.machine.isIn Screen.pending.label = true ∧
          s.kiosk.inserted = some name then
        s.kiosk.tickets * Kiosk.ticketPrice
      else
        0 := by
  simp only [Kiosk.heldFor, hAt.isIn_iff .pending]
  cases screen <;> simp [Kiosk.held, Kiosk.total]

/-
  Money is conserved if every card has available and
  reserved what it had at first, less what was paid with it.
  Money is reserved only while an order is pending, on the
  card that is inserted, and for the price of all tickets.
  No card is overdrawn, a card is there whenever the kiosk
  deals with a customer, and added tickets are reserved.
-/
structure Conserved
    (initial : LabelMap Card)
    (deeds : List Deed)
    (now : Session) : Prop where
  cards :
    ∀ name c₀,
      initial.get? name = some c₀ →
      ∃ c,
        now.kiosk.cards.get? name = some c ∧
          c.available + c.reserved + spent deeds name =
            c₀.available + c₀.reserved ∧
          c.reserved =
            c₀.reserved +
              (if now.machine.isIn Screen.pending.label =
                    true ∧
                  now.kiosk.inserted = some name then
                now.kiosk.tickets * Kiosk.ticketPrice
              else
                0) ∧
          (0 ≤ c₀.available → 0 ≤ c.available)
  inserted :
    now.machine.isIn Screen.waitForPin.label = true ∨
        now.machine.isIn Screen.pending.label = true →
      ∃ name c,
        now.kiosk.inserted = some name ∧
          now.kiosk.cards.get? name = some c
  adds : AddsApproved deeds

theorem Balanced.conserved
    {initial : LabelMap Card}
    {deeds : List Deed}
    {s : Session}
    {screen : Screen}
    (hBalanced : Balanced initial deeds s.kiosk screen)
    (hAt : s.At screen)
    (hServes : s.kiosk.Serves screen)
    (hAdds : AddsApproved deeds) :
    Conserved initial deeds s where
  cards := by
    intro name c₀ hInitial
    have hCard := hBalanced.cards name
    have hHeld := hAt.heldFor_eq name
    rw [hInitial] at hCard
    have hSolvent := hBalanced.solvent hInitial hCard
    refine ⟨_, hCard, ?_, ?_, fun hFunds => by omega⟩
    · simp only [Card.shift]
      omega
    · rw [← hHeld]
      rfl
  inserted := by
    intro hPlace
    have hBusy : screen = .waitForPin ∨ screen = .pending :=
      hPlace.imp (hAt.isIn_iff _).mp (hAt.isIn_iff _).mp
    rcases hServes.busy hBusy with ⟨c, hCard, _⟩
    rcases Kiosk.card?_eq_some_iff.mp hCard with
      ⟨name, hKnown⟩
    exact ⟨name, c, hKnown⟩
  adds := hAdds

/- Money that the arithmetic keeps is conserved. -/
theorem conserved_of_keeps
    {arithmetic : Arithmetic}
    {cards : List (String × Card)}
    (hKeeps :
      ∀ name c,
        (Kiosk.ofCards cards).cards.get? name = some c →
          arithmetic.Keeps c)
    {s : Session}
    (hOpen : open? (.ofCards cards arithmetic) = .ok s)
    {calls : List Call}
    (hInserts :
      insertsWhile
          (·.machine.isIn Screen.waiting.label) s calls =
        true) :
    ∃ deeds,
      Visits s calls deeds (s.callAll calls) ∧
        Conserved (Kiosk.ofCards cards).cards deeds
          (s.callAll calls) := by
  have hRests := rests_of_open? hOpen rfl
  have hServes := serves_of_open? hOpen rfl
  have hBalanced := balanced_of_open? hOpen hKeeps
  rcases hRests.exists_visits calls with ⟨deeds, hVisits⟩
  rcases
      hVisits.balanced hRests hServes hBalanced hInserts with
    ⟨screen, hThen, hServed, hBooks, hAdds⟩
  exact
    ⟨deeds, hVisits,
      hBooks.conserved hThen.place hServed hAdds⟩

/-
  Whatever customers do that put cards in only while the
  kiosk waits for one, money is conserved after every call,
  if balances are integers.
-/
theorem visit_conserves_money
    {cards : List (String × Card)}
    {s : Session}
    (hOpen : open? (.ofCards cards .exact) = .ok s)
    {calls : List Call}
    (hInserts :
      insertsWhile
          (·.machine.isIn Screen.waiting.label) s calls =
        true) :
    ∃ deeds,
      Visits s calls deeds (s.callAll calls) ∧
        Conserved (Kiosk.ofCards cards).cards deeds
          (s.callAll calls) :=
  conserved_of_keeps
    (fun _ c _ => Arithmetic.keeps_exact c) hOpen hInserts

/-
  Two tickets are bought; two more are ordered with the same
  card after a third one was taken back.
-/
theorem visit_conserves_money_two_orders :
    let cards : List (String × Card) :=
      [ ("amex", ⟨"AmEx", "4321", 8500, 0⟩),
        ("simple", ⟨"VISA", "1234", 5000, 0⟩) ]
    let calls : List Call :=
      [ .submit .systemReady, .insertCard "amex",
        .insertCard "simple", .inputPin "1234",
        .submit .addTicket, .submit .confirmPurchase,
        .insertCard "simple", .inputPin "1234",
        .submit .addTicket, .submit .addTicket,
        .submit .removeTicket ]
    ∃ s, open? (.ofCards cards .exact) = .ok s ∧
      insertsWhile
          (·.machine.isIn Screen.waiting.label) s calls =
        true ∧
      ∃ deeds,
        Visits s calls deeds (s.callAll calls) ∧
          Conserved (Kiosk.ofCards cards).cards deeds
            (s.callAll calls) := by
  intro cards calls
  let s : Session :=
    ⟨.start .standard Screen.idle.label, Kiosk.chart,
      .ofCards cards .exact⟩
  have hOpen : open? (.ofCards cards .exact) = .ok s :=
    open?_eq _
  have hInserts :
      insertsWhile
          (·.machine.isIn Screen.waiting.label) s calls =
        true := by
    decide +kernel
  exact
    ⟨s, hOpen, hInserts,
      visit_conserves_money hOpen hInserts⟩

/-
  The same is true with every other arithmetic, machine words
  among them, if the money of each card fits.
-/
theorem fitting_cards_keep_their_money
    {arithmetic : Arithmetic}
    {cards : List (String × Card)}
    (hFits :
      ∀ name c,
        (Kiosk.ofCards cards).cards.get? name = some c →
          c.Fits)
    {s : Session}
    (hOpen : open? (.ofCards cards arithmetic) = .ok s)
    {calls : List Call}
    (hInserts :
      insertsWhile
          (·.machine.isIn Screen.waiting.label) s calls =
        true) :
    ∃ deeds,
      Visits s calls deeds (s.callAll calls) ∧
        Conserved (Kiosk.ofCards cards).cards deeds
          (s.callAll calls) :=
  conserved_of_keeps
    (fun name c hCard =>
      arithmetic.keeps_of_fits (hFits name c hCard))
    hOpen hInserts

end Session

end Statechart
