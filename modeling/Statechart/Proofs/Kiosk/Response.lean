import Statechart.Proofs.Kiosk.Course
import Statechart.Proofs.Kiosk.Plan

/-
  This file states how the kiosk responds to an event. On
  four screens the kiosk rests until something happens; from
  the others it goes on by itself. An event that is fired
  while the kiosk rests is either refused, and nothing
  changes, or it is answered in one of eleven ways, after
  which the kiosk rests again. All this holds for every
  arithmetic.

  Key definitions include:
    * `Screen.isPassing`
    * `Kiosk.Response`
    * `Session.SettlesAt`
    * `Session.Rests`
    * `Session.Outcome`

  Key theorems include:
    * `Kiosk.tickets_removeTicket`
    * `Session.Rests.responds`
    * `Session.Rests.exists_outcome`
    * `Session.Outcome.rests`
    * `Session.Rests.exists_visits`
    * `Session.Visits.invariant`
-/

namespace Statechart

------------------------------------------------------------
-- Screens
------------------------------------------------------------

namespace Screen

/- From a passing screen, the kiosk goes on by itself. -/
def isPassing : Screen → Bool
  | checking => true
  | rejected => true
  | purchased => true
  | _ => false

theorem label_injective
    {screen screen' : Screen}
    (hLabel : screen.label = screen'.label) :
    screen = screen' := by
  cases screen <;> cases screen' <;>
    first | rfl | exact absurd hLabel (by decide)

end Screen

namespace Session

/- A session is at one screen only. -/
theorem At.unique
    {s : Session}
    {screen screen' : Screen}
    (hAt : s.At screen)
    (hOther : s.At screen') :
    screen = screen' :=
  Screen.label_injective
    (hAt.current.symm.trans hOther.current)

theorem At.isIn_iff
    {s : Session}
    {screen : Screen}
    (hAt : s.At screen)
    (other : Screen) :
    s.machine.isIn other.label = true ↔ screen = other := by
  unfold Machine.isIn
  rw [hAt.current, beq_iff_eq]
  exact ⟨Screen.label_injective, congrArg Screen.label⟩

end Session

------------------------------------------------------------
-- Fields of the Kiosk
------------------------------------------------------------

namespace Kiosk

section Fields

variable (k : Kiosk)
variable (f : Card → Card)

@[simp]
theorem modifyCard_followUps :
    (k.modifyCard f).followUps = k.followUps := by
  unfold modifyCard
  split <;> rfl

@[simp]
theorem modifyCard_tickets :
    (k.modifyCard f).tickets = k.tickets := by
  unfold modifyCard
  split <;> rfl

@[simp]
theorem modifyCard_inserted :
    (k.modifyCard f).inserted = k.inserted := by
  unfold modifyCard
  split <;> rfl

@[simp]
theorem modifyCard_arithmetic :
    (k.modifyCard f).arithmetic = k.arithmetic := by
  unfold modifyCard
  split <;> rfl

/- Cards are changed alike with another queue. -/
theorem modifyCard_queue
    (e : Event) :
    (k.queue e).modifyCard f = (k.modifyCard f).queue e := by
  unfold modifyCard queue
  cases hInserted : k.inserted <;> simp only [hInserted]

theorem addTicket_queue
    (e : Event) :
    (k.queue e).addTicket = k.addTicket.queue e := by
  unfold addTicket reserve
  rw [modifyCard_queue]
  rfl

end Fields

/- Queueing an event and taking it out changes nothing. -/
theorem queue_popped
    {k : Kiosk}
    (hQueue : k.followUps = [])
    (e : Event) :
    { k.queue e with followUps := [] } = k := by
  cases k
  cases hQueue
  rfl

/- The inserted card after a change. -/
theorem card?_modifyCard
    (k : Kiosk)
    (f : Card → Card) :
    (k.modifyCard f).card? = k.card?.map f := by
  unfold card?
  rw [modifyCard_inserted]
  unfold modifyCard
  cases k.inserted with
  | none => rfl
  | some name =>
      have hModify :=
        k.cards.get?_modify name name f
      simpa using hModify

------------------------------------------------------------
-- What Is Not Refused
------------------------------------------------------------

/- Nothing can be done without a card that is known. -/
theorem refusal?_eq_none_iff
    {k : Kiosk}
    {e : Event} :
    k.refusal? e = none ↔
      ∃ c, k.card? = some c ∧
        k.refusalWith? c e = none := by
  unfold refusal?
  cases k.card? <;> simp

/- What is open is not refused with the inserted card. -/
theorem refusalWith?_eq_none
    {k : Kiosk}
    {e : Event}
    {c : Card}
    (hOpen : k.refusal? e = none)
    (hCard : k.card? = some c) :
    k.refusalWith? c e = none := by
  rcases refusal?_eq_none_iff.mp hOpen with
    ⟨c', hCard', hOpenWith⟩
  cases hCard.symm.trans hCard'
  exact hOpenWith

/- A ticket is added if there are few and if it is paid. -/
theorem refusalWith?_addTicket_iff
    {k : Kiosk}
    {c : Card} :
    k.refusalWith? c .addTicket = none ↔
      k.tickets < maxTickets ∧
        ticketPrice ≤ c.available := by
  simp only [refusalWith?, ticketRefusal?]
  split
  · simp; omega
  · split <;> simp <;> omega

theorem refusalWith?_removeTicket_iff
    {k : Kiosk}
    {c : Card} :
    k.refusalWith? c .removeTicket = none ↔
      1 < k.tickets := by
  simp only [refusalWith?]
  split <;> simp <;> omega

theorem refusalWith?_preapprove_iff
    {k : Kiosk}
    {c : Card} :
    k.refusalWith? c .preapprove = none ↔
      k.total ≤ c.available := by
  simp only [refusalWith?]
  split <;> simp <;> omega

------------------------------------------------------------
-- Counting Tickets
------------------------------------------------------------

/- A permitted number of tickets is stored as it is. -/
theorem count_eq_of_le
    (k : Kiosk)
    {n : Nat}
    (hFew : n ≤ maxTickets) :
    k.arithmetic.count n = n := by
  have hSize : UInt32.size = 4294967296 := rfl
  have hMax : maxTickets = 5 := rfl
  have hFits : FitsCount n := by
    unfold FitsCount
    omega
  have hCount := k.arithmetic.count_eq hFits
  omega

theorem tickets_addTicket
    {k : Kiosk}
    (hFew : k.tickets < maxTickets) :
    k.addTicket.tickets = k.tickets + 1 :=
  k.count_eq_of_le (n := k.tickets + 1) hFew

theorem tickets_removeTicket
    {k : Kiosk}
    (hSome : 1 ≤ k.tickets)
    (hFew : k.tickets ≤ maxTickets) :
    k.removeTicket.tickets + 1 = k.tickets := by
  have hRemoved :
      k.removeTicket.tickets =
        k.arithmetic.count (k.tickets - 1) := by
    simp only [removeTicket, reserve, modifyCard_tickets]
  have hLess : (k.tickets : Int) - 1 = (k.tickets - 1 : Nat) :=
    (Int.ofNat_sub hSome).symm
  have hCount :=
    k.count_eq_of_le (n := k.tickets - 1) (by omega)
  rw [hRemoved, hLess, hCount]
  omega

------------------------------------------------------------
-- Responses
------------------------------------------------------------

/-
  How the kiosk responds to an event that is not refused:
  which follow-ups it attempts with which success, and at
  which screen and with what it rests in the end.
-/
inductive Response (k : Kiosk) :
    Screen → Event →
      List (Event × Bool) → Screen → Kiosk → Prop where
  | ready :
      Response k .idle .systemReady [] .waiting k
  | askedAgain :
      Response k .waiting .cancelEject [] .waiting k
  | cardAccepted
      (hOpen : k.refusal? .insertCard = none) :
      Response k .waiting .insertCard [] .waitForPin k
  | pinCancelled :
      Response k .waitForPin .cancelEject []
        .waiting (k.after .openOrder).eject
  | orderApproved
      (hOpen : k.refusal? .inputPin = none)
      (hFunds :
        (k.after .openOrder).refusal? .preapprove = none) :
      Response k .waitForPin .inputPin
        [(.preapprove, true)]
        .pending (k.after .openOrder).reserveTotal
  | orderRejected
      {reason : Refusal}
      (hOpen : k.refusal? .inputPin = none)
      (hFunds :
        (k.after .openOrder).refusal? .preapprove =
          some reason) :
      Response k .waitForPin .inputPin
        [(.preapprove, false), (.insufficientFunds, true),
          (.cancelEject, true)]
        .waiting (k.after .openOrder).eject
  | ticketAdded
      (hOpen : k.refusal? .addTicket = none)
      (hFunds : k.addTicket.refusal? .preapprove = none) :
      Response k .pending .addTicket
        [(.preapprove, true)]
        .pending k.addTicket.reserveTotal
  | ticketRejected
      {reason : Refusal}
      (hOpen : k.refusal? .addTicket = none)
      (hFunds :
        k.addTicket.refusal? .preapprove = some reason) :
      Response k .pending .addTicket
        [(.preapprove, false), (.insufficientFunds, true),
          (.cancelEject, true)]
        .waiting k.addTicket.eject
  | ticketRemoved
      (hOpen : k.refusal? .removeTicket = none) :
      Response k .pending .removeTicket []
        .pending k.removeTicket
  | purchased :
      Response k .pending .confirmPurchase
        [(.printSpooled, true)]
        .waiting (k.spend k.total).eject
  | orderCancelled :
      Response k .pending .cancelEject []
        .waiting k.cancelOrder.eject

namespace Response

variable {k k' : Kiosk}
variable {screen screen' : Screen}
variable {event : Event}
variable {reports : List (Event × Bool)}

/- After a response, the kiosk rests. -/
theorem isPassing_eq_false
    (hResponse :
      Response k screen event reports screen' k') :
    screen'.isPassing = false := by
  cases hResponse <;> rfl

theorem followUps_eq
    (hResponse :
      Response k screen event reports screen' k') :
    k'.followUps = k.followUps := by
  cases hResponse <;>
    simp [after, eject, reserveTotal, addTicket,
      removeTicket, cancelOrder, reserve, spend]

/- No response adds too many tickets or leaves none. -/
theorem tickets_bounded
    (hResponse :
      Response k screen event reports screen' k')
    (hPending : screen' = .pending)
    (hTickets :
      screen = .pending →
        1 ≤ k.tickets ∧ k.tickets ≤ maxTickets) :
    1 ≤ k'.tickets ∧ k'.tickets ≤ maxTickets := by
  cases hResponse with
  | orderApproved hOpen hFunds =>
      simp [after, reserveTotal, reserve, maxTickets]
  | ticketAdded hOpen =>
      rcases refusal?_eq_none_iff.mp hOpen with
        ⟨c, _, hOpenWith⟩
      have hFew :=
        (refusalWith?_addTicket_iff.mp hOpenWith).1
      have hAdded := tickets_addTicket hFew
      simp only [reserveTotal, reserve, modifyCard_tickets]
      omega
  | ticketRemoved hOpen =>
      rcases refusal?_eq_none_iff.mp hOpen with
        ⟨c, _, hOpenWith⟩
      have hMany :=
        refusalWith?_removeTicket_iff.mp hOpenWith
      have hBound := hTickets rfl
      have hRemoved :=
        tickets_removeTicket hBound.1 hBound.2
      omega
  | ready | askedAgain | cardAccepted | pinCancelled
  | orderRejected | ticketRejected | purchased
  | orderCancelled =>
      cases hPending

theorem length_reports_le
    (hResponse :
      Response k screen event reports screen' k') :
    reports.length ≤ 3 := by
  cases hResponse <;> decide

end Response

end Kiosk

------------------------------------------------------------
-- Settling at a Screen
------------------------------------------------------------

namespace Session

/- A deed is passing if it is done at a passing screen. -/
def Deed.Passing (d : Deed) : Prop :=
  ∃ screen,
    d.before.At screen ∧ screen.isPassing = true

/-
  A session settles at a screen with a kiosk, after
  follow-ups from passing screens.
-/
def SettlesAt
    (s : Session)
    (reports : List (Event × Bool))
    (screen : Screen)
    (k : Kiosk) : Prop :=
  ∃ deeds turn,
    Settles s deeds turn ∧
      turn.result = .ok () ∧
      turn.session.At screen ∧
      turn.session.kiosk = k ∧
      deeds.map Deed.report = reports ∧
      ∀ d ∈ deeds, d.Passing

/- A session with one queued event. -/
structure Awaits
    (s : Session)
    (screen : Screen)
    (k : Kiosk)
    (e : Event) : Prop where
  place : s.At screen
  kiosk : s.kiosk = k.queue e
  queue : k.followUps = []

section Settling

variable {s : Session}
variable {screen screen' : Screen}
variable {k k' : Kiosk}
variable {e : Event}
variable {reports : List (Event × Bool)}

theorem settlesAt_of_nil
    (hAt : s.At screen)
    (hQueue : s.kiosk.followUps = []) :
    SettlesAt s [] screen s.kiosk :=
  ⟨[], _, .done hQueue, rfl, hAt, rfl, rfl,
    fun _ hMember => by cases hMember⟩

theorem Awaits.queue_eq
    (hAwaits : s.Awaits screen k e) :
    s.kiosk.followUps = [e] := by
  rw [hAwaits.kiosk]
  unfold Kiosk.queue
  rw [hAwaits.queue]
  rfl

/- The event is taken out of the queue. -/
theorem Awaits.popped
    (hAwaits : s.Awaits screen k e) :
    (s.withQueue []).At screen ∧
      (s.withQueue []).kiosk = k := by
  refine ⟨⟨hAwaits.place.chart, hAwaits.place.current⟩, ?_⟩
  unfold withQueue
  rw [hAwaits.kiosk]
  exact Kiosk.queue_popped hAwaits.queue e

/- A follow-up that succeeds is a deed of its own. -/
theorem followUp_of_ok
    (hResult : (s.perform e).result = .ok ()) :
    s.followUp e = s.perform e ∧
      s.followUpDeeds e = [⟨s, e⟩] := by
  unfold followUp followUpDeeds
  cases e <;> simp only [hResult, and_self]

/- Without funds, a preapproval is made up for. -/
theorem followUp_of_closedGate
    {state label : String}
    (hResult :
      (s.perform .preapprove).result =
        .error (.closedGate state label)) :
    s.followUp .preapprove =
        ((s.perform .preapprove).session.perform
          .insufficientFunds).after
            (s.perform .preapprove).lines ∧
      s.followUpDeeds .preapprove =
        [⟨s, .preapprove⟩,
          ⟨(s.perform .preapprove).session,
            .insufficientFunds⟩] := by
  unfold followUp followUpDeeds
  simp only [hResult, and_self]

/- A queued event is performed, and then all others are. -/
theorem Awaits.settlesAt
    (hAwaits : s.Awaits screen k e)
    (hPassing : screen.isPassing = true)
    {way : Kiosk.Way}
    (hWay : Kiosk.way? screen e = some way)
    (hOpen : way.gated = true → k.refusal? e = none)
    (hRest :
      ∀ t : Session,
        t.At way.target →
        t.kiosk = way.effect screen k →
        SettlesAt t reports screen' k') :
    SettlesAt s ((e, true) :: reports) screen' k' := by
  rcases hAwaits.popped with ⟨hAt, hKiosk⟩
  rw [← hKiosk] at hOpen
  rcases perform_of_way hAt hWay hOpen with
    ⟨hResult, hThere, hEffect⟩
  rw [hKiosk] at hEffect
  rcases followUp_of_ok hResult with ⟨hFollowUp, hDeeds⟩
  rcases hRest _ hThere hEffect with
    ⟨deeds, turn, hSettles, hOk, hEnd, hKiosk', hReports,
      hAll⟩
  rw [← hFollowUp] at hResult hSettles
  have hNext :=
    Settles.next hAwaits.queue_eq hResult hSettles
  rw [hDeeds] at hNext
  refine ⟨_, _, hNext, hOk, hEnd, hKiosk', ?_, ?_⟩
  · rw [hFollowUp] at hResult
    have hSucceeds := Deed.succeeds_eq_true hResult
    simp [Deed.report, hSucceeds, ← hReports]
  · intro d hMember
    rcases List.mem_cons.mp hMember with rfl | hLater
    · exact ⟨screen, hAt, hPassing⟩
    · exact hAll d hLater

/-
  A preapproval that is refused is followed by a rejection,
  and then by all others.
-/
theorem Awaits.settlesAt_of_refusal
    (hAwaits : s.Awaits .checking k .preapprove)
    {reason : Refusal}
    (hRefused : k.refusal? .preapprove = some reason)
    (hRest :
      ∀ t : Session,
        t.At .rejected →
        t.kiosk = k.queue .cancelEject →
        SettlesAt t reports screen' k') :
    SettlesAt s
      ((.preapprove, false) ::
        (.insufficientFunds, true) :: reports)
      screen' k' := by
  rcases hAwaits.popped with ⟨hAt, hKiosk⟩
  rw [← hKiosk] at hRefused
  rcases perform_of_refusal hAt rfl rfl hRefused with
    ⟨hClosed, hSame⟩
  have hWay :
      Kiosk.way? .checking .insufficientFunds =
        some { target := .rejected } :=
    rfl
  rcases perform_of_way hAt hWay
      (fun hGated => by cases hGated) with
    ⟨hResult, hThere, hEffect⟩
  rw [hKiosk] at hEffect
  rcases followUp_of_closedGate hClosed with
    ⟨hFollowUp, hDeeds⟩
  rw [hSame] at hFollowUp hDeeds
  rcases hRest _ hThere hEffect with
    ⟨deeds, turn, hSettles, hOk, hEnd, hKiosk', hReports,
      hAll⟩
  have hNext :=
    Settles.next hAwaits.queue_eq
      (by rw [hFollowUp]; exact hResult)
      (by rw [hFollowUp]; exact hSettles)
  rw [hDeeds] at hNext
  refine ⟨_, _, hNext, hOk, hEnd, hKiosk', ?_, ?_⟩
  · have hFails := Deed.succeeds_eq_false hClosed
    have hSucceeds := Deed.succeeds_eq_true hResult
    simp [Deed.report, hFails, hSucceeds, ← hReports]
  · intro d hMember
    rcases List.mem_cons.mp hMember with rfl | hLater
    · exact ⟨.checking, hAt, rfl⟩
    · rcases List.mem_cons.mp hLater with rfl | hLast
      · exact ⟨.checking, hAt, rfl⟩
      · exact hAll d hLast

/- If funds suffice, their check ends in a reservation. -/
theorem settlesAt_of_approval
    (hAwaits : s.Awaits .checking k .preapprove)
    (hOpen : k.refusal? .preapprove = none) :
    SettlesAt s [(.preapprove, true)]
      .pending k.reserveTotal := by
  apply hAwaits.settlesAt rfl rfl (fun _ => hOpen)
  intro t hAt hKiosk
  have hReserved : t.kiosk = k.reserveTotal := hKiosk
  rw [← hReserved]
  apply settlesAt_of_nil hAt
  rw [hReserved]
  simp [Kiosk.reserveTotal, Kiosk.reserve, hAwaits.queue]

/- A rejected card is given back. -/
theorem settlesAt_of_rejection
    (hAwaits : s.Awaits .rejected k .cancelEject) :
    SettlesAt s [(.cancelEject, true)]
      .waiting k.eject := by
  apply hAwaits.settlesAt rfl rfl
    (fun hGated => by cases hGated)
  intro t hAt hKiosk
  have hEjected : t.kiosk = k.eject := hKiosk
  rw [← hEjected]
  apply settlesAt_of_nil hAt
  rw [hEjected]
  exact hAwaits.queue

/- If funds are missing, their check ends without the card. -/
theorem settlesAt_of_denial
    (hAwaits : s.Awaits .checking k .preapprove)
    {reason : Refusal}
    (hRefused : k.refusal? .preapprove = some reason) :
    SettlesAt s
      [(.preapprove, false), (.insufficientFunds, true),
        (.cancelEject, true)]
      .waiting k.eject := by
  apply hAwaits.settlesAt_of_refusal hRefused
  intro t hRejected hKiosk
  exact
    settlesAt_of_rejection
      ⟨hRejected, hKiosk, hAwaits.queue⟩

/- After a purchase, the receipt is printed. -/
theorem settlesAt_of_purchase
    (hAwaits : s.Awaits .purchased k .printSpooled) :
    SettlesAt s [(.printSpooled, true)] .waiting k := by
  apply hAwaits.settlesAt rfl rfl
    (fun hGated => by cases hGated)
  intro t hAt hKiosk
  have hSame : t.kiosk = k := hKiosk
  rw [← hSame]
  apply settlesAt_of_nil hAt
  rw [hSame]
  exact hAwaits.queue

end Settling

------------------------------------------------------------
-- Sessions at Rest
------------------------------------------------------------

/-
  A session rests at a screen if the kiosk does not go on by
  itself and nothing is queued. If an order is pending, it is
  for a permitted number of tickets.
-/
structure Rests
    (s : Session)
    (screen : Screen) : Prop where
  place : s.At screen
  stays : screen.isPassing = false
  queue : s.kiosk.followUps = []
  tickets :
    screen = .pending →
      1 ≤ s.kiosk.tickets ∧
        s.kiosk.tickets ≤ Kiosk.maxTickets

/-
  What becomes of an event that is fired at a screen: it is
  refused, which can be recovered from and changes nothing,
  or the kiosk responds to it.
-/
inductive Outcome
    (s : Session)
    (screen : Screen)
    (e : Event) :
    List Deed → Turn → Prop where
  | refused
      {fault : Fault}
      {turn : Turn}
      (hResult : (s.perform e).result = .error fault)
      (hFault : fault.isRecoverable = true)
      (hSession : turn.session = s)
      (hFails : turn.result = .error fault) :
      Outcome s screen e [⟨s, e⟩] turn
  | answered
      {later : List Deed}
      {screen' : Screen}
      {turn : Turn}
      (hResult : (s.perform e).result = .ok ())
      (hSucceeds : turn.result = .ok ())
      (hAt : turn.session.At screen')
      (hResponse :
        Kiosk.Response s.kiosk screen e
          (later.map Deed.report)
          screen' turn.session.kiosk)
      (hPassing : ∀ d ∈ later, d.Passing) :
      Outcome s screen e (⟨s, e⟩ :: later) turn

/-
  A session that has performed an event settles with one of
  the responses of the kiosk.
-/
def Responds
    (k : Kiosk)
    (screen : Screen)
    (e : Event)
    (s : Session) : Prop :=
  ∃ reports screen' k',
    Kiosk.Response k screen e reports screen' k' ∧
      SettlesAt s reports screen' k'

section Responding

variable {s : Session}
variable {screen screen' : Screen}
variable {k k' : Kiosk}
variable {e : Event}

/- A response without follow-ups is there at once. -/
theorem responds_of_nil
    (hResponse : Kiosk.Response k screen e [] screen' k')
    (hQueue : k.followUps = [])
    (hAt : s.At screen')
    (hKiosk : s.kiosk = k') :
    Responds k screen e s := by
  refine ⟨[], screen', k', hResponse, ?_⟩
  rw [← hKiosk]
  apply settlesAt_of_nil hAt
  rw [hKiosk, hResponse.followUps_eq, hQueue]

/- After the pin, the funds for the order are checked. -/
theorem responds_of_pin
    (hOpen : k.refusal? .inputPin = none)
    (hQueue : k.followUps = [])
    (hAt : s.At .checking)
    (hKiosk :
      s.kiosk = (k.after .openOrder).queue .preapprove) :
    Responds k .waitForPin .inputPin s := by
  have hAwaits :
      s.Awaits .checking (k.after .openOrder) .preapprove :=
    ⟨hAt, hKiosk, hQueue⟩
  cases hFunds :
      (k.after .openOrder).refusal? .preapprove with
  | none =>
      exact
        ⟨_, _, _, .orderApproved hOpen hFunds,
          settlesAt_of_approval hAwaits hFunds⟩
  | some reason =>
      exact
        ⟨_, _, _, .orderRejected hOpen hFunds,
          settlesAt_of_denial hAwaits hFunds⟩

/- With a ticket more, the funds are checked again. -/
theorem responds_of_ticket
    (hOpen : k.refusal? .addTicket = none)
    (hQueue : k.followUps = [])
    (hAt : s.At .checking)
    (hKiosk : s.kiosk = (k.queue .preapprove).addTicket) :
    Responds k .pending .addTicket s := by
  rw [k.addTicket_queue] at hKiosk
  have hEmpty : k.addTicket.followUps = [] := by
    simp [Kiosk.addTicket, Kiosk.reserve, hQueue]
  have hAwaits : s.Awaits .checking k.addTicket .preapprove :=
    ⟨hAt, hKiosk, hEmpty⟩
  cases hFunds : k.addTicket.refusal? .preapprove with
  | none =>
      exact
        ⟨_, _, _, .ticketAdded hOpen hFunds,
          settlesAt_of_approval hAwaits hFunds⟩
  | some reason =>
      exact
        ⟨_, _, _, .ticketRejected hOpen hFunds,
          settlesAt_of_denial hAwaits hFunds⟩

/- A purchase ends with the receipt. -/
theorem responds_of_purchase
    (hQueue : k.followUps = [])
    (hAt : s.At .purchased)
    (hKiosk :
      s.kiosk =
        (k.spend k.total).eject.queue .printSpooled) :
    Responds k .pending .confirmPurchase s := by
  have hEmpty :
      (k.spend k.total).eject.followUps = [] := by
    simp [Kiosk.eject, Kiosk.spend, hQueue]
  exact
    ⟨_, _, _, .purchased,
      settlesAt_of_purchase ⟨hAt, hKiosk, hEmpty⟩⟩

end Responding

namespace Rests

variable {s : Session}
variable {screen : Screen}
variable {e : Event}

/-
  The kiosk responds to an event that is not refused. One
  case for each way that leaves a resting screen.
-/
theorem responds
    (hRests : s.Rests screen)
    {way : Kiosk.Way}
    (hWay : Kiosk.way? screen e = some way)
    (hOpen :
      way.gated = true → s.kiosk.refusal? e = none) :
    Responds s.kiosk screen e (s.perform e).session := by
  rcases perform_of_way hRests.place hWay hOpen with
    ⟨_, hThere, hEffect⟩
  have hQueue := hRests.queue
  have hStays := hRests.stays
  cases screen with
  | checking | rejected | purchased => cases hStays
  | idle =>
      cases e with
      | systemReady =>
          cases hWay
          exact responds_of_nil .ready hQueue hThere hEffect
      | _ => cases hWay
  | waiting =>
      cases e with
      | cancelEject =>
          cases hWay
          exact
            responds_of_nil .askedAgain hQueue hThere hEffect
      | insertCard =>
          cases hWay
          exact
            responds_of_nil (.cardAccepted (hOpen rfl))
              hQueue hThere hEffect
      | _ => cases hWay
  | waitForPin =>
      cases e with
      | inputPin =>
          cases hWay
          exact
            responds_of_pin (hOpen rfl) hQueue hThere hEffect
      | cancelEject =>
          cases hWay
          exact
            responds_of_nil .pinCancelled hQueue hThere
              hEffect
      | _ => cases hWay
  | pending =>
      cases e with
      | addTicket =>
          cases hWay
          exact
            responds_of_ticket (hOpen rfl) hQueue hThere
              hEffect
      | removeTicket =>
          cases hWay
          exact
            responds_of_nil (.ticketRemoved (hOpen rfl))
              hQueue hThere hEffect
      | confirmPurchase =>
          cases hWay
          exact responds_of_purchase hQueue hThere hEffect
      | cancelEject =>
          cases hWay
          exact
            responds_of_nil .orderCancelled hQueue hThere
              hEffect
      | _ => cases hWay

/- An event that is fired has an outcome. -/
theorem exists_outcome
    (hRests : s.Rests screen)
    (e : Event) :
    ∃ deeds turn,
      Fires s e deeds turn ∧
        deeds.length ≤ settleBudget ∧
        Outcome s screen e deeds turn := by
  have hOne : [Deed.mk s e].length ≤ settleBudget := by
    simp [settleBudget]
  cases hWay : Kiosk.way? screen e with
  | none =>
      rcases perform_of_no_way hRests.place hWay with
        ⟨hResult, hSame⟩
      have hFires : Fires s e _ _ :=
        .failed hResult (by intro state label h; cases h)
      exact
        ⟨_, _, hFires, hOne,
          .refused hResult rfl hSame hResult⟩
  | some way =>
      by_cases hRefused :
          way.gated = true ∧
            (s.kiosk.refusal? e).isSome = true
      · rcases Option.isSome_iff_exists.mp hRefused.2 with
          ⟨reason, hReason⟩
        rcases perform_of_refusal hRests.place hWay
            hRefused.1 hReason with
          ⟨hResult, hSame⟩
        exact
          ⟨_, _, .refused hResult, hOne,
            .refused hResult rfl hSame hResult⟩
      · have hOpen :
            way.gated = true →
              s.kiosk.refusal? e = none := by
          intro hGated
          apply Option.not_isSome_iff_eq_none.mp
          exact fun hSome => hRefused ⟨hGated, hSome⟩
        have hResult :=
          (perform_of_way hRests.place hWay hOpen).1
        rcases hRests.responds hWay hOpen with
          ⟨reports, screen', k', hResponse, deeds, turn,
            hSettles, hSucceeds, hAt, hKiosk, hReports,
            hPassing⟩
        have hFires := Fires.performed hResult hSettles
        have hFew := hResponse.length_reports_le
        rw [← hReports, List.length_map] at hFew
        rw [← hKiosk, ← hReports] at hResponse
        refine
          ⟨_, _, hFires, ?_,
            .answered hResult hSucceeds hAt hResponse
              hPassing⟩
        rw [List.length_cons, settleBudget]
        omega

theorem outcome
    (hRests : s.Rests screen)
    {deeds : List Deed}
    {turn : Turn}
    (hFires : Fires s e deeds turn) :
    Outcome s screen e deeds turn := by
  rcases hRests.exists_outcome e with
    ⟨deeds', turn', hFires', _, hOutcome⟩
  rcases hFires.unique hFires' with ⟨rfl, rfl⟩
  exact hOutcome

/- The budget for follow-ups is never used up. -/
theorem fire_eq
    (hRests : s.Rests screen)
    {deeds : List Deed}
    {turn : Turn}
    (hFires : Fires s e deeds turn) :
    s.fire e = turn := by
  rcases hRests.exists_outcome e with
    ⟨deeds', turn', hFires', hBudget, _⟩
  rcases hFires.unique hFires' with ⟨rfl, rfl⟩
  exact hFires.fire_eq hBudget

end Rests

/- After any outcome, the session rests. -/
theorem Outcome.rests
    {s : Session}
    {screen : Screen}
    {e : Event}
    {deeds : List Deed}
    {turn : Turn}
    (hOutcome : Outcome s screen e deeds turn)
    (hRests : s.Rests screen) :
    ∃ screen', turn.session.Rests screen' := by
  cases hOutcome with
  | refused _ _ hSession _ =>
      rw [hSession]
      exact ⟨screen, hRests⟩
  | answered _ _ hAt hResponse _ =>
      refine
        ⟨_, hAt, hResponse.isPassing_eq_false, ?_, ?_⟩
      · rw [hResponse.followUps_eq, hRests.queue]
      · intro hPending
        exact hResponse.tickets_bounded hPending hRests.tickets

------------------------------------------------------------
-- Visits at Rest
------------------------------------------------------------

/- A session rests when it has been opened. -/
theorem rests_of_open?
    {k : Kiosk}
    {s : Session}
    (hOpen : open? k = .ok s)
    (hQueue : k.followUps = []) :
    s.Rests .idle := by
  rw [open?_eq] at hOpen
  cases hOpen
  exact
    ⟨⟨rfl, rfl⟩, rfl, hQueue,
      fun hPending => by cases hPending⟩

namespace Rests

variable {s : Session}
variable {screen : Screen}

/- Whoever puts in a card or a pin disturbs nothing. -/
theorem ready
    (hRests : s.Rests screen)
    (c : Call) :
    (s.ready c).Rests screen := by
  cases c <;>
    exact
      ⟨⟨hRests.place.chart, hRests.place.current⟩,
        hRests.stays, hRests.queue, hRests.tickets⟩

theorem finish
    (hRests : s.Rests screen)
    (c : Call) :
    (s.finish c).Rests screen := by
  cases c with
  | submit event => exact hRests
  | inputPin pin => exact hRests
  | insertCard name =>
      have hFinish :
          s.finish (.insertCard name) =
            if s.machine.isIn Screen.waitForPin.label then s
            else { s with kiosk := s.kiosk.eject } :=
        rfl
      rw [hFinish]
      split
      · exact hRests
      · exact
          ⟨⟨hRests.place.chart, hRests.place.current⟩,
            hRests.stays, hRests.queue, hRests.tickets⟩

/-
  Every visit takes its course. By induction on the calls:
  after each of them, the session rests again.
-/
theorem exists_visits
    (hRests : s.Rests screen)
    (calls : List Call) :
    ∃ deeds, Visits s calls deeds (s.callAll calls) := by
  induction calls generalizing s screen with
  | nil => exact ⟨[], .nil⟩
  | cons c rest ih =>
      have hReady := hRests.ready c
      rcases hReady.exists_outcome c.event with
        ⟨deeds, turn, hFires, _, hOutcome⟩
      rcases hOutcome.rests hReady with ⟨screen', hThen⟩
      have hCall :
          s.callAll (c :: rest) =
            (turn.session.finish c).callAll rest := by
        rw [← hReady.fire_eq hFires, ← call_session]
        rfl
      rcases ih (hThen.finish c) with ⟨later, hRest⟩
      rw [hCall]
      exact ⟨deeds ++ later, .cons hFires hRest⟩

end Rests

/-
  What each call preserves holds after a visit. The
  invariant is about the deeds so far, the screen at which
  the session rests, and the calls that are left.
-/
theorem Visits.invariant
    (Inv :
      List Deed → Screen → Session → List Call → Prop)
    (hStep :
      ∀ {done deeds : List Deed}
        {s : Session}
        {screen screen' : Screen}
        {c : Call}
        {rest : List Call}
        {turn : Turn},
        (s.ready c).Rests screen →
        Outcome (s.ready c) screen c.event deeds turn →
        (s.call c).session = turn.session.finish c →
        (turn.session.finish c).Rests screen' →
        Inv done screen s (c :: rest) →
        Inv (done ++ deeds) screen'
          (turn.session.finish c) rest)
    {s s' : Session}
    {screen : Screen}
    {calls : List Call}
    {deeds : List Deed}
    (hVisits : Visits s calls deeds s')
    (hRests : s.Rests screen)
    (hInv : Inv [] screen s calls) :
    ∃ screen', s'.Rests screen' ∧
      Inv deeds screen' s' [] := by
  -- Deeds may have been done before the visit began.
  suffices hLate :
      ∀ done, Inv done screen s calls →
        ∃ screen', s'.Rests screen' ∧
          Inv (done ++ deeds) screen' s' [] from
    hLate [] hInv
  clear hInv
  induction hVisits generalizing screen with
  | nil =>
      intro done hInv
      rw [List.append_nil]
      exact ⟨screen, hRests, hInv⟩
  | @cons s c deeds turn rest later s' hFires _ ih =>
      intro done hInv
      have hReady := hRests.ready c
      have hOutcome := hReady.outcome hFires
      rcases hOutcome.rests hReady with ⟨screen', hThen⟩
      have hFinished := hThen.finish c
      have hCall :
          (s.call c).session = turn.session.finish c := by
        rw [call_session, hReady.fire_eq hFires]
      have hNext :=
        hStep hReady hOutcome hCall hFinished hInv
      rw [← List.append_assoc]
      exact ih hFinished (done ++ deeds) hNext

/- After a visit, a session that rested rests again. -/
theorem Visits.rests
    {s s' : Session}
    {screen : Screen}
    {calls : List Call}
    {deeds : List Deed}
    (hVisits : Visits s calls deeds s')
    (hRests : s.Rests screen) :
    ∃ screen', s'.Rests screen' := by
  rcases
      hVisits.invariant (fun _ _ _ _ => True)
        (fun _ _ _ _ _ => trivial) hRests trivial with
    ⟨screen', hThen, _⟩
  exact ⟨screen', hThen⟩

end Session

end Statechart
