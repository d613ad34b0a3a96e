import Statechart.Proofs.Kiosk.Custody

/-
  This file states what the check of cards is worth. If
  cards are put in only while there is none in the kiosk,
  every pending order is paid for with a card that has been
  accepted. A card that is put in while the kiosk asks for
  the pin of another one is never checked, and a card that
  is put in while an order is pending takes the accepted
  card out.

  Key theorems include:
    * `Session.Visits.serves`
    * `Session.pending_card_is_accepted`
    * `Session.pending_card_can_be_unchecked`
-/

namespace Statechart

namespace Session

/-
  The kiosk serves its screen throughout a visit. By
  induction on the visit.
-/
theorem Visits.serves
    {s s' : Session}
    {screen : Screen}
    {calls : List Call}
    {deeds : List Deed}
    (hVisits : Visits s calls deeds s')
    (hRests : s.Rests screen)
    (hServes : s.kiosk.Serves screen)
    (hInserts :
      insertsWhile (·.kiosk.inserted.isNone) s calls =
        true) :
    ∃ screen', s'.Rests screen' ∧
      s'.kiosk.Serves screen' := by
  have hEnd :
      ∃ screen', s'.Rests screen' ∧
        s'.kiosk.Serves screen' ∧
        insertsWhile (·.kiosk.inserted.isNone) s' [] =
          true := by
    refine
      hVisits.invariant
        (fun _ screen s rest =>
          s.kiosk.Serves screen ∧
            insertsWhile (·.kiosk.inserted.isNone) s rest =
              true)
        ?_ hRests ⟨hServes, hInserts⟩
    intro done deeds s screen screen' c rest turn hReady
      hOutcome hCall hThen hInv
    rcases insertsWhile_cons_iff.mp hInv.2 with
      ⟨hInsert, hLater⟩
    rw [hCall] at hLater
    refine ⟨?_, hLater⟩
    exact
      hOutcome.serves hReady hThen hInv.1 fun hInsertion =>
        Option.isNone_iff_eq_none.mp (hInsert hInsertion)
  rcases hEnd with ⟨screen', hThen, hServed, _⟩
  exact ⟨screen', hThen, hServed⟩

/-
  If cards are put in only while there is none, a pending
  order is paid for with a known card that the kiosk would
  accept, whatever it stores of numbers that do not fit.
-/
theorem pending_card_is_accepted
    {arithmetic : Arithmetic}
    {cards : List (String × Card)}
    {s : Session}
    (hOpen : open? (.ofCards cards arithmetic) = .ok s)
    {calls : List Call}
    (hInserts :
      insertsWhile (·.kiosk.inserted.isNone) s calls = true)
    (hPending :
      (s.callAll calls).machine.isIn Screen.pending.label =
        true) :
    let k := (s.callAll calls).kiosk
    k.refusal? .insertCard = none ∧
      ∃ name c,
        k.inserted = some name ∧
          k.cards.get? name = some c ∧
          c.kind = "VISA" ∧
          c.pin.utf8ByteSize = 4 := by
  intro k
  have hRests := rests_of_open? hOpen rfl
  rcases hRests.exists_visits calls with ⟨deeds, hVisits⟩
  rcases
      hVisits.serves hRests (serves_of_open? hOpen rfl)
        hInserts with
    ⟨screen, hThen, hServes⟩
  have hScreen := (hThen.place.isIn_iff _).mp hPending
  have hBusy := hServes.busy (Or.inr hScreen)
  refine ⟨Kiosk.refusal?_insertCard_iff.mpr hBusy, ?_⟩
  rcases hBusy with ⟨c, hCard, hUsable⟩
  rcases Kiosk.card?_eq_some_iff.mp hCard with
    ⟨name, hInserted, hKnown⟩
  rcases Card.refusal?_eq_none_iff.mp hUsable with
    ⟨hKind, hPin⟩
  exact ⟨name, c, hInserted, hKnown, hKind, hPin⟩

/-
  The first card is refused and given back; the second one
  is accepted and pays for two tickets.
-/
theorem pending_card_is_accepted_second_card :
    let cards : List (String × Card) :=
      [ ("amex", ⟨"AmEx", "4321", 8500, 0⟩),
        ("simple", ⟨"VISA", "1234", 2000, 0⟩) ]
    let calls : List Call :=
      [ .submit .systemReady, .insertCard "amex",
        .insertCard "simple", .inputPin "1234",
        .submit .addTicket ]
    ∃ s, open? (.ofCards cards) = .ok s ∧
      insertsWhile (·.kiosk.inserted.isNone) s calls =
          true ∧
        (s.callAll calls).machine.isIn
            Screen.pending.label =
          true ∧
        let k := (s.callAll calls).kiosk
        k.refusal? .insertCard = none ∧
          ∃ name c,
            k.inserted = some name ∧
              k.cards.get? name = some c ∧
              c.kind = "VISA" ∧
              c.pin.utf8ByteSize = 4 := by
  intro cards calls
  let s : Session :=
    ⟨.start .standard Screen.idle.label, Kiosk.chart,
      .ofCards cards⟩
  have hOpen : open? (.ofCards cards) = .ok s := open?_eq _
  have hInserts :
      insertsWhile (·.kiosk.inserted.isNone) s calls =
        true := by
    decide +kernel
  have hPending :
      (s.callAll calls).machine.isIn Screen.pending.label =
        true := by
    decide +kernel
  exact
    ⟨s, hOpen, hInserts, hPending,
      pending_card_is_accepted hOpen hInserts hPending⟩

/-
  Cards that are put in at any time get past the check. A
  card that is put in while the kiosk asks for the pin of
  another one takes its place, and its own pin is enough to
  order with it. A card that is put in while an order is
  pending is given back, and the accepted card with it; the
  order stays, and so does its reservation.
-/
theorem pending_card_can_be_unchecked :
    let cards : List (String × Card) :=
      [ ("amex", ⟨"AmEx", "4321", 8500, 0⟩),
        ("simple", ⟨"VISA", "1234", 2000, 0⟩) ]
    let replaced : List Call :=
      [ .submit .systemReady, .insertCard "simple",
        .insertCard "amex", .inputPin "4321" ]
    let removed : List Call :=
      [ .submit .systemReady, .insertCard "simple",
        .inputPin "1234", .insertCard "amex" ]
    ∃ s, open? (.ofCards cards) = .ok s ∧
      ((s.callAll replaced).machine.isIn
            Screen.pending.label =
          true ∧
        (s.callAll replaced).kiosk.inserted =
          some "amex" ∧
        (s.callAll replaced).kiosk.refusal? .insertCard =
          some (.unsupportedCard "AmEx")) ∧
      ((s.callAll removed).machine.isIn
            Screen.pending.label =
          true ∧
        (s.callAll removed).kiosk.inserted = none ∧
        (s.callAll removed).kiosk.cards.get? "simple" =
          some ⟨"VISA", "1234", 1550, 450⟩) := by
  intro cards replaced removed
  refine ⟨_, open?_eq (.ofCards cards), ?_⟩
  decide +kernel

end Session

end Statechart
