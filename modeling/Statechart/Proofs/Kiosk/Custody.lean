import Statechart.Proofs.Kiosk.Response

/-
  This file states which card the kiosk holds while it
  rests. As long as customers put cards in only when there
  is none, the kiosk holds no card while it waits for one,
  and while it deals with a customer it holds a card that it
  has accepted.

  Key definitions include:
    * `Kiosk.Serves`
    * `Session.insertsWhile`

  Key theorems include:
    * `Kiosk.refusal?_insertCard_iff`
    * `Kiosk.Response.serves`
    * `Session.Outcome.serves`
-/

namespace Statechart

/- What makes a card usable. -/
theorem Card.refusal?_eq_none_iff
    {c : Card} :
    c.refusal? = none ↔
      c.kind = "VISA" ∧ c.pin.utf8ByteSize = 4 := by
  unfold refusal?
  split
  · simp_all
  · split <;> simp_all

namespace Kiosk

------------------------------------------------------------
-- The Card in the Kiosk
------------------------------------------------------------

/-
  A kiosk serves a screen if it holds no card where it waits
  for one, and a usable card where it deals with a customer.
-/
structure Serves
    (k : Kiosk)
    (screen : Screen) : Prop where
  free :
    screen = .idle ∨ screen = .waiting → k.inserted = none
  busy :
    screen = .waitForPin ∨ screen = .pending →
      ∃ c, k.card? = some c ∧ c.refusal? = none

theorem card?_eq_some_iff
    {k : Kiosk}
    {c : Card} :
    k.card? = some c ↔
      ∃ name, k.inserted = some name ∧
        k.cards.get? name = some c := by
  unfold card?
  cases k.inserted <;> simp

/- A card is accepted if it is there and can be used. -/
theorem refusal?_insertCard_iff
    {k : Kiosk} :
    k.refusal? .insertCard = none ↔
      ∃ c, k.card? = some c ∧ c.refusal? = none :=
  refusal?_eq_none_iff

theorem serves_of_free
    {k : Kiosk}
    {screen : Screen}
    (hFree : k.inserted = none)
    (hScreen : screen ≠ .waitForPin ∧ screen ≠ .pending) :
    k.Serves screen where
  free _ := hFree
  busy hBusy := by
    rcases hBusy with hBusy | hBusy
    · exact absurd hBusy hScreen.1
    · exact absurd hBusy hScreen.2

theorem serves_of_busy
    {k : Kiosk}
    {screen : Screen}
    (hBusy : ∃ c, k.card? = some c ∧ c.refusal? = none)
    (hScreen : screen ≠ .idle ∧ screen ≠ .waiting) :
    k.Serves screen where
  free hFree := by
    rcases hFree with hFree | hFree
    · exact absurd hFree hScreen.1
    · exact absurd hFree hScreen.2
  busy _ := hBusy

/- A usable card stays usable when its balances change. -/
theorem usable_modifyCard
    {k : Kiosk}
    {f : Card → Card}
    (hBusy : ∃ c, k.card? = some c ∧ c.refusal? = none)
    (hSame : ∀ c : Card, (f c).refusal? = c.refusal?) :
    ∃ c, (k.modifyCard f).card? = some c ∧
      c.refusal? = none := by
  rcases hBusy with ⟨c, hCard, hUsable⟩
  refine ⟨f c, ?_, (hSame c).trans hUsable⟩
  rw [card?_modifyCard, hCard]
  rfl

/- Where no card is held, the kiosk waits for one. -/
theorem Serves.waits
    {k : Kiosk}
    {screen : Screen}
    (hServes : k.Serves screen)
    (hStays : screen.isPassing = false)
    (hFree : k.inserted = none) :
    screen = .idle ∨ screen = .waiting := by
  have hNoCard : k.card? = none := by
    unfold card?
    rw [hFree]
  have hNotBusy :
      ¬ (screen = .waitForPin ∨ screen = .pending) := by
    intro hBusy
    rcases hServes.busy hBusy with ⟨c, hCard, _⟩
    cases hNoCard.symm.trans hCard
  cases screen with
  | idle => exact Or.inl rfl
  | waiting => exact Or.inr rfl
  | waitForPin | pending =>
      exact absurd (by decide) hNotBusy
  | checking | rejected | purchased => cases hStays

/-
  After a response, the kiosk serves the screen at which it
  rests. One case for each response.
-/
theorem Response.serves
    {k k' : Kiosk}
    {screen screen' : Screen}
    {event : Event}
    {reports : List (Event × Bool)}
    (hResponse :
      Response k screen event reports screen' k')
    (hServes : event ≠ .insertCard → k.Serves screen) :
    k'.Serves screen' := by
  cases hResponse with
  | ready | askedAgain =>
      have hFree := (hServes (by decide)).free (by decide)
      exact serves_of_free hFree (by decide)
  | cardAccepted hOpen =>
      exact
        serves_of_busy (refusal?_insertCard_iff.mp hOpen)
          (by decide)
  | pinCancelled | orderRejected | ticketRejected
  | purchased | orderCancelled =>
      exact serves_of_free rfl (by decide)
  | orderApproved | ticketRemoved =>
      have hBusy := (hServes (by decide)).busy (by decide)
      exact
        serves_of_busy
          (usable_modifyCard hBusy fun _ => rfl) (by decide)
  | ticketAdded =>
      have hBusy := (hServes (by decide)).busy (by decide)
      have hReleased :
          ∃ c, (k.reserve (-k.total)).card? = some c ∧
            c.refusal? = none :=
        usable_modifyCard hBusy fun _ => rfl
      exact
        serves_of_busy
          (usable_modifyCard hReleased fun _ => rfl)
          (by decide)

/- The kiosk asks for the pin of a card that it accepts. -/
theorem Response.eq_waitForPin
    {k k' : Kiosk}
    {screen screen' : Screen}
    {reports : List (Event × Bool)}
    (hResponse :
      Response k screen .insertCard reports screen' k') :
    screen' = .waitForPin := by
  cases hResponse
  rfl

end Kiosk

------------------------------------------------------------
-- Inserting Cards
------------------------------------------------------------

namespace Session

/- Does a call put in a card? -/
def Call.insertsCard : Call → Bool
  | .submit _ => false
  | .insertCard _ => true
  | .inputPin _ => false

/- Are cards put in only while a session allows for it? -/
def insertsWhile
    (allowed : Session → Bool) :
    Session → List Call → Bool
  | _, [] => true
  | s, c :: rest =>
      (!c.insertsCard || allowed s) &&
        insertsWhile allowed (s.call c).session rest

theorem insertsWhile_cons_iff
    {allowed : Session → Bool}
    {s : Session}
    {c : Call}
    {rest : List Call} :
    insertsWhile allowed s (c :: rest) = true ↔
      (c.insertsCard = true → allowed s = true) ∧
        insertsWhile allowed (s.call c).session rest =
          true := by
  have hUnfold :
      insertsWhile allowed s (c :: rest) =
        ((!c.insertsCard || allowed s) &&
          insertsWhile allowed (s.call c).session rest) :=
    rfl
  rw [hUnfold]
  cases c.insertsCard <;> simp

/- A session that has been opened holds no card. -/
theorem serves_of_open?
    {k : Kiosk}
    {s : Session}
    (hOpen : open? k = .ok s)
    (hFree : k.inserted = none) :
    s.kiosk.Serves .idle := by
  rw [open?_eq] at hOpen
  cases hOpen
  exact Kiosk.serves_of_free hFree (by decide)

/- A card that is asked for its pin stays in the kiosk. -/
theorem At.finish_insertCard
    {s : Session}
    (hAt : s.At .waitForPin)
    (name : String) :
    s.finish (.insertCard name) = s :=
  if_pos ((hAt.isIn_iff .waitForPin).mpr rfl)

/- Any other card is given back. -/
theorem At.finish_insertCard_of_ne
    {s : Session}
    {screen : Screen}
    (hAt : s.At screen)
    (hScreen : screen ≠ .waitForPin)
    (name : String) :
    s.finish (.insertCard name) =
      { s with kiosk := s.kiosk.eject } :=
  if_neg fun hIn =>
    hScreen ((hAt.isIn_iff .waitForPin).mp hIn)

/-
  A card that is put in while the kiosk waits is accepted or
  given back.
-/
theorem Outcome.serves_of_insertion
    {s : Session}
    {screen screen' : Screen}
    {name : String}
    {deeds : List Deed}
    {turn : Turn}
    (hOutcome :
      Outcome (s.ready (.insertCard name)) screen
        .insertCard deeds turn)
    (hRests : (s.ready (.insertCard name)).Rests screen)
    (hThen :
      (turn.session.finish (.insertCard name)).Rests screen')
    (hWaits : screen = .idle ∨ screen = .waiting) :
    (turn.session.finish (.insertCard name)).kiosk.Serves
      screen' := by
  have hElsewhere :
      screen ≠ .waitForPin ∧ screen ≠ .pending := by
    rcases hWaits with rfl | rfl <;> decide
  cases hOutcome with
  | refused _ _ hSession _ =>
      have hFinish :=
        hRests.place.finish_insertCard_of_ne
          hElsewhere.1 name
      rw [hSession, hFinish] at hThen ⊢
      have hSame : (s.ready (.insertCard name)).At screen' :=
        ⟨hThen.place.chart, hThen.place.current⟩
      cases hSame.unique hRests.place
      exact Kiosk.serves_of_free rfl hElsewhere
  | answered _ _ hAt hResponse _ =>
      have hServes :=
        hResponse.serves fun hOther => absurd rfl hOther
      cases hResponse.eq_waitForPin
      rw [hAt.finish_insertCard name] at hThen ⊢
      cases hThen.place.unique hAt
      exact hServes

/-
  If a card is put in only where there is none, the kiosk
  serves its screen after the call as before.
-/
theorem Outcome.serves
    {s : Session}
    {screen screen' : Screen}
    {c : Call}
    {deeds : List Deed}
    {turn : Turn}
    (hOutcome :
      Outcome (s.ready c) screen c.event deeds turn)
    (hRests : (s.ready c).Rests screen)
    (hThen : (turn.session.finish c).Rests screen')
    (hServes : s.kiosk.Serves screen)
    (hInserts :
      c.insertsCard = true → s.kiosk.inserted = none) :
    (turn.session.finish c).kiosk.Serves screen' := by
  cases hInsertion : c.insertsCard with
  | false =>
      have hReady : (s.ready c).kiosk.Serves screen := by
        cases c with
        | submit event => exact hServes
        | insertCard name => cases hInsertion
        | inputPin pin => exact ⟨hServes.free, hServes.busy⟩
      have hFinish : turn.session.finish c = turn.session := by
        cases c with
        | insertCard name => cases hInsertion
        | submit | inputPin => rfl
      rw [hFinish] at hThen ⊢
      cases hOutcome with
      | refused _ _ hSession _ =>
          rw [hSession] at hThen ⊢
          cases hThen.place.unique hRests.place
          exact hReady
      | answered _ _ hAt hResponse _ =>
          cases hThen.place.unique hAt
          exact hResponse.serves fun _ => hReady
  | true =>
      have hWaits :=
        hServes.waits hRests.stays (hInserts hInsertion)
      cases c with
      | insertCard name =>
          exact
            hOutcome.serves_of_insertion hRests hThen hWaits
      | submit | inputPin => cases hInsertion

end Session

end Statechart
