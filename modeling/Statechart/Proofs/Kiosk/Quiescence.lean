import Statechart.Proofs.Kiosk.Response

/-
  This file states that the kiosk always comes to rest.
  Whatever customers do, and whatever cards the kiosk knows,
  the follow-ups of each call come to an end without a
  fault, and then the kiosk waits for something to happen.
  A pending order is for one ticket at least, so that none
  is ever taken away from zero.

  Key definitions include:
    * `Session.Deed.CountsTickets`
    * `Session.Completes`

  Key theorems include:
    * `Session.Rests.countsTickets`
    * `Session.visit_comes_to_rest`
-/

namespace Statechart

namespace Session

------------------------------------------------------------
-- Counting Tickets
------------------------------------------------------------

/-
  Tickets are counted well if a pending order is for one
  ticket at least and not too many, and if a ticket that is
  removed was there.
-/
structure Deed.CountsTickets (d : Deed) : Prop where
  bounded :
    d.before.machine.isIn Screen.pending.label = true →
      1 ≤ d.before.kiosk.tickets ∧
        d.before.kiosk.tickets ≤ Kiosk.maxTickets
  removed :
    d.event = .removeTicket →
      d.succeeds = true →
      d.after.kiosk.tickets + 1 = d.before.kiosk.tickets

/- The plan removes tickets from a pending order only. -/
theorem way?_removeTicket
    {screen : Screen}
    {way : Kiosk.Way}
    (hWay : Kiosk.way? screen .removeTicket = some way) :
    screen = .pending := by
  cases screen <;> first | rfl | cases hWay

/-
  Where a ticket can be removed, an order is pending: it has
  one ticket at least before and one less afterwards.
-/
theorem At.tickets_after_removal
    {s : Session}
    {screen : Screen}
    (hAt : s.At screen)
    (hSucceeds :
      (Deed.mk s .removeTicket).succeeds = true)
    (hTickets :
      screen = .pending →
        1 ≤ s.kiosk.tickets ∧
          s.kiosk.tickets ≤ Kiosk.maxTickets) :
    (s.perform .removeTicket).session.kiosk.tickets + 1 =
      s.kiosk.tickets := by
  have hFails
      {fault : Fault}
      (hResult :
        (s.perform .removeTicket).result = .error fault) :
      (s.perform .removeTicket).session.kiosk.tickets + 1 =
        s.kiosk.tickets := by
    have hFailed := Deed.succeeds_eq_false hResult
    cases hFailed.symm.trans hSucceeds
  cases hWay : Kiosk.way? screen .removeTicket with
  | none => exact hFails (perform_of_no_way hAt hWay).1
  | some way =>
      cases way?_removeTicket hWay
      cases hReason : s.kiosk.refusal? .removeTicket with
      | some reason =>
          exact
            hFails (perform_of_refusal hAt rfl rfl hReason).1
      | none =>
          have hEffect :=
            (perform_of_way hAt rfl fun _ => hReason).2.2
          have hRemoved :
              (s.perform .removeTicket).session.kiosk =
                s.kiosk.removeTicket :=
            hEffect
          have hBound := hTickets rfl
          rw [hRemoved]
          exact
            Kiosk.tickets_removeTicket hBound.1 hBound.2

/- While the kiosk rests, its tickets are counted well. -/
theorem Rests.countsTickets
    {s : Session}
    {screen : Screen}
    (hRests : s.Rests screen)
    (e : Event) :
    (Deed.mk s e).CountsTickets where
  bounded := by
    intro hPending
    exact
      hRests.tickets ((hRests.place.isIn_iff _).mp hPending)
  removed := by
    intro hEvent hSucceeds
    cases hEvent
    exact
      hRests.place.tickets_after_removal hSucceeds
        hRests.tickets

/- While the kiosk goes on by itself, no order is pending. -/
theorem Deed.Passing.countsTickets
    {d : Deed}
    (hPassing : d.Passing) :
    d.CountsTickets := by
  rcases hPassing with ⟨screen, hAt, hPasses⟩
  have hElsewhere : screen ≠ .pending := by
    intro hPending
    cases hPending
    cases hPasses
  constructor
  · intro hPending
    exact absurd ((hAt.isIn_iff _).mp hPending) hElsewhere
  · intro hEvent hSucceeds
    rcases d with ⟨before, event⟩
    cases hEvent
    exact
      hAt.tickets_after_removal hSucceeds
        fun hPending => absurd hPending hElsewhere

theorem Outcome.countsTickets
    {s : Session}
    {screen : Screen}
    {e : Event}
    {deeds : List Deed}
    {turn : Turn}
    (hOutcome : Outcome s screen e deeds turn)
    (hRests : s.Rests screen) :
    ∀ d ∈ deeds, d.CountsTickets := by
  intro d hMember
  cases hOutcome with
  | refused =>
      rcases List.mem_singleton.mp hMember with rfl
      exact hRests.countsTickets e
  | answered _ _ _ _ hPassing =>
      rcases List.mem_cons.mp hMember with rfl | hLater
      · exact hRests.countsTickets e
      · exact (hPassing d hLater).countsTickets

theorem Visits.countsTickets
    {s s' : Session}
    {screen : Screen}
    {calls : List Call}
    {deeds : List Deed}
    (hVisits : Visits s calls deeds s')
    (hRests : s.Rests screen) :
    ∀ d ∈ deeds, d.CountsTickets := by
  have hEnd :
      ∃ screen', s'.Rests screen' ∧
        ∀ d ∈ deeds, d.CountsTickets := by
    refine
      hVisits.invariant
        (fun done _ _ _ => ∀ d ∈ done, d.CountsTickets)
        ?_ hRests (fun _ hNone => by cases hNone)
    intro done now s screen screen' c rest turn hReady
      hOutcome _ _ hDone d hMember
    rcases List.mem_append.mp hMember with hBefore | hNow
    · exact hDone d hBefore
    · exact hOutcome.countsTickets hReady d hNow
  rcases hEnd with ⟨_, _, hAll⟩
  exact hAll

------------------------------------------------------------
-- Coming to Rest
------------------------------------------------------------

/-
  Firing an event completes if it takes its course and is
  not stalled, comes to nothing worse than a fault that can
  be recovered from, and if all that follow the event are
  done without a fault.
-/
structure Completes
    (s : Session)
    (e : Event) : Prop where
  course :
    ∃ deeds, Fires s e deeds (s.fire e)
  ends : (s.fire e).isStalled = false
  result :
    ∀ fault,
      (s.fire e).result = .error fault →
        fault.isRecoverable = true
  settles :
    (s.perform e).result = .ok () →
      ∃ deeds turn,
        Settles (s.perform e).session deeds turn ∧
          settle? settleBudget (s.perform e).session =
              some turn ∧
          turn.result = .ok () ∧
          turn.session.kiosk.followUps = []

theorem Rests.completes
    {s : Session}
    {screen : Screen}
    (hRests : s.Rests screen)
    (e : Event) :
    s.Completes e := by
  rcases hRests.exists_outcome e with
    ⟨deeds, turn, hFires, hBudget, hOutcome⟩
  have hFire := hFires.fire_eq hBudget
  rcases hOutcome.rests hRests with ⟨screen', hThen⟩
  refine
    ⟨⟨deeds, hFire ▸ hFires⟩, hFire ▸ hFires.isStalled_eq,
      ?_, ?_⟩
  · intro fault hFails
    rw [hFire] at hFails
    cases hOutcome with
    | refused _ hFault _ hFails' =>
        cases hFails.symm.trans hFails'
        exact hFault
    | answered _ hSucceeds =>
        cases hFails.symm.trans hSucceeds
  · intro hResult
    cases hOutcome with
    | refused hResult' => cases hResult.symm.trans hResult'
    | answered _ hSucceeds =>
        cases hFires with
        | failed hResult' =>
            cases hResult.symm.trans hResult'
        | refused hResult' =>
            cases hResult.symm.trans hResult'
        | performed _ hSettles =>
            have hSettled :=
              hSettles.settle_eq (Nat.le_of_succ_le hBudget)
            exact
              ⟨_, _, hSettles, hSettled, hSucceeds,
                hThen.queue⟩

/-
  Whatever cards a kiosk knows, whatever it stores of numbers
  that do not fit, and whatever customers do: a session can
  be opened, every call of the visit takes its course, and
  afterwards nothing is queued and the kiosk waits on one of
  four screens. Whatever call comes next, it is not stalled,
  and its follow-ups end without a fault. A pending order
  always has a permitted number of tickets.
-/
theorem visit_comes_to_rest
    (arithmetic : Arithmetic)
    (cards : List (String × Card))
    (calls : List Call) :
    ∃ s, open? (.ofCards cards arithmetic) = .ok s ∧
      let now := s.callAll calls
      (∃ deeds,
        Visits s calls deeds now ∧
          ∀ d ∈ deeds, d.CountsTickets) ∧
        now.kiosk.followUps = [] ∧
        (∃ screen : Screen,
          screen ∈
              [ Screen.idle, Screen.waiting,
                Screen.waitForPin, Screen.pending ] ∧
            now.machine.current = screen.label) ∧
        (now.machine.isIn Screen.pending.label = true →
          1 ≤ now.kiosk.tickets ∧
            now.kiosk.tickets ≤ Kiosk.maxTickets) ∧
        ∀ c,
          (now.call c).isStalled = false ∧
            (now.ready c).Completes c.event := by
  have hOpen := open?_eq (.ofCards cards arithmetic)
  refine ⟨_, hOpen, ?_⟩
  intro now
  have hOpened := rests_of_open? hOpen rfl
  rcases hOpened.exists_visits calls with ⟨deeds, hVisits⟩
  rcases hVisits.rests hOpened with ⟨screen, hRests⟩
  refine
    ⟨⟨deeds, hVisits, hVisits.countsTickets hOpened⟩,
      hRests.queue,
      ⟨screen, ?_, hRests.place.current⟩, ?_, ?_⟩
  · have hStays := hRests.stays
    cases screen <;> first | decide | cases hStays
  · intro hPending
    exact
      hRests.tickets ((hRests.place.isIn_iff _).mp hPending)
  · intro c
    have hCompletes := (hRests.ready c).completes c.event
    exact
      ⟨(now.call_isStalled c).trans hCompletes.ends,
        hCompletes⟩

end Session

end Statechart
