import Statechart.Kiosk.Visit

/-
  This file defines the course of a visit without a budget
  for follow-ups: which transitions are attempted, in which
  order, and what they leave. A session settles only if its
  queue runs empty or an event of it fails. If the course of
  an event is no longer than the budget, the session that
  has the budget takes this course, and its turn is not
  stalled.

  Key definitions include:
    * `Session.Deed`
    * `Session.Settles`
    * `Session.Fires`
    * `Session.Visits`

  Key theorems include:
    * `Session.Settles.settle_eq`
    * `Session.Fires.fire_eq`
    * `Session.Fires.unique`
    * `Session.call_session`
    * `Session.Visits.unique`
-/

namespace Statechart

namespace Session

------------------------------------------------------------
-- Deeds
------------------------------------------------------------

/- An attempted transition: an event, and when it occurred. -/
structure Deed where
  before : Session
  event : Event

namespace Deed

/- Has the transition been performed? -/
def succeeds (d : Deed) : Bool :=
  (d.before.perform d.event).result.isOk

/- The session after the attempt. -/
def after (d : Deed) : Session :=
  (d.before.perform d.event).session

/- The event of a deed and its success. -/
def report (d : Deed) : Event × Bool :=
  (d.event, d.succeeds)

theorem succeeds_eq_true
    {s : Session}
    {e : Event}
    (hResult : (s.perform e).result = .ok ()) :
    (Deed.mk s e).succeeds = true := by
  unfold succeeds
  rw [hResult]
  rfl

theorem succeeds_eq_false
    {s : Session}
    {e : Event}
    {fault : Fault}
    (hResult : (s.perform e).result = .error fault) :
    (Deed.mk s e).succeeds = false := by
  unfold succeeds
  rw [hResult]
  rfl

end Deed

------------------------------------------------------------
-- Settling Without a Budget
------------------------------------------------------------

/- The session with another queue. -/
def withQueue
    (s : Session)
    (queue : List Event) : Session :=
  { s with kiosk := { s.kiosk with followUps := queue } }

/- What is attempted for an event that was queued. -/
def followUpDeeds
    (s : Session)
    (e : Event) : List Deed :=
  match e, (s.perform e).result with
  | .preapprove, .error (.closedGate _ _) =>
      [⟨s, e⟩, ⟨(s.perform e).session, .insufficientFunds⟩]
  | _, _ => [⟨s, e⟩]

theorem length_followUpDeeds_pos
    (s : Session)
    (e : Event) :
    0 < (s.followUpDeeds e).length := by
  unfold followUpDeeds
  split <;> simp

/-
  A session settles when its queue is empty, or when the
  first event of its queue fails, or else when the session
  after that event settles.
-/
inductive Settles : Session → List Deed → Turn → Prop where
  | done
      {s : Session}
      (hQueue : s.kiosk.followUps = []) :
      Settles s [] (.still s)
  | failed
      {s : Session}
      {e : Event}
      {rest : List Event}
      {fault : Fault}
      (hQueue : s.kiosk.followUps = e :: rest)
      (hResult :
        ((s.withQueue rest).followUp e).result =
          .error fault) :
      Settles s
        ((s.withQueue rest).followUpDeeds e)
        ((s.withQueue rest).followUp e)
  | next
      {s : Session}
      {e : Event}
      {rest : List Event}
      {deeds : List Deed}
      {turn : Turn}
      (hQueue : s.kiosk.followUps = e :: rest)
      (hResult :
        ((s.withQueue rest).followUp e).result = .ok ())
      (hSettles :
        Settles ((s.withQueue rest).followUp e).session
          deeds turn) :
      Settles s
        ((s.withQueue rest).followUpDeeds e ++ deeds)
        (turn.after ((s.withQueue rest).followUp e).lines)

/-
  A budget that covers all deeds is never used up. By
  induction on the settling: each follow-up has a deed.
-/
theorem Settles.settle_eq
    {s : Session}
    {deeds : List Deed}
    {turn : Turn}
    (hSettles : Settles s deeds turn)
    {budget : Nat}
    (hBudget : deeds.length ≤ budget) :
    settle? budget s = some turn := by
  induction hSettles generalizing budget with
  | done hQueue =>
      unfold settle?
      simp only [hQueue]
  | @failed s e rest fault hQueue hResult =>
      have hPositive :=
        (s.withQueue rest).length_followUpDeeds_pos e
      cases budget with
      | zero => omega
      | succ budget =>
          unfold withQueue at hResult ⊢
          unfold settle?
          simp only [hQueue, hResult]
  | @next s e rest deeds turn hQueue hResult _ ih =>
      have hPositive :=
        (s.withQueue rest).length_followUpDeeds_pos e
      rw [List.length_append] at hBudget
      cases budget with
      | zero => omega
      | succ budget =>
          have hRest : settle? budget _ = some turn :=
            ih (by omega)
          unfold withQueue at hResult hRest ⊢
          unfold settle?
          simp only [hQueue, hResult, hRest, Option.map_some]

theorem followUp_isStalled
    (s : Session)
    (e : Event) :
    (s.followUp e).isStalled = false := by
  simp only [followUp]
  split <;> rfl

/- Whoever settles is not stalled. -/
theorem Settles.isStalled_eq
    {s : Session}
    {deeds : List Deed}
    {turn : Turn}
    (hSettles : Settles s deeds turn) :
    turn.isStalled = false := by
  induction hSettles with
  | done => rfl
  | failed => exact followUp_isStalled _ _
  | next _ _ _ ih => exact ih

/- There is only one way to settle. -/
theorem Settles.unique
    {s : Session}
    {deeds deeds' : List Deed}
    {turn turn' : Turn}
    (hSettles : Settles s deeds turn)
    (hOther : Settles s deeds' turn') :
    deeds = deeds' ∧ turn = turn' := by
  induction hSettles generalizing deeds' turn' with
  | done hQueue =>
      cases hOther with
      | done => exact ⟨rfl, rfl⟩
      | failed hQueue' => cases hQueue.symm.trans hQueue'
      | next hQueue' => cases hQueue.symm.trans hQueue'
  | failed hQueue hResult =>
      cases hOther with
      | done hQueue' => cases hQueue.symm.trans hQueue'
      | failed hQueue' =>
          cases hQueue.symm.trans hQueue'
          exact ⟨rfl, rfl⟩
      | next hQueue' hResult' =>
          cases hQueue.symm.trans hQueue'
          cases hResult.symm.trans hResult'
  | next hQueue hResult _ ih =>
      cases hOther with
      | done hQueue' => cases hQueue.symm.trans hQueue'
      | failed hQueue' hResult' =>
          cases hQueue.symm.trans hQueue'
          cases hResult.symm.trans hResult'
      | next hQueue' _ hSettles' =>
          cases hQueue.symm.trans hQueue'
          rcases ih hSettles' with ⟨rfl, rfl⟩
          exact ⟨rfl, rfl⟩

------------------------------------------------------------
-- Firing Without a Budget
------------------------------------------------------------

/-
  An event that is fired fails, or it is refused, or it is
  performed and the session settles after it.
-/
inductive Fires :
    Session → Event → List Deed → Turn → Prop where
  | failed
      {s : Session}
      {e : Event}
      {fault : Fault}
      (hResult : (s.perform e).result = .error fault)
      (hFault :
        ∀ state label, fault ≠ .closedGate state label) :
      Fires s e [⟨s, e⟩] (s.perform e)
  | refused
      {s : Session}
      {e : Event}
      {state label : String}
      (hResult :
        (s.perform e).result =
          .error (.closedGate state label)) :
      Fires s e [⟨s, e⟩]
        { s.perform e with
          lines :=
            (s.perform e).lines ++
              (s.perform e).session.refusalLines e }
  | performed
      {s : Session}
      {e : Event}
      {deeds : List Deed}
      {turn : Turn}
      (hResult : (s.perform e).result = .ok ())
      (hSettles :
        Settles (s.perform e).session deeds turn) :
      Fires s e (⟨s, e⟩ :: deeds)
        (turn.after (s.perform e).lines)

/- The budget covers a course that is not too long. -/
theorem Fires.fire_eq
    {s : Session}
    {e : Event}
    {deeds : List Deed}
    {turn : Turn}
    (hFires : Fires s e deeds turn)
    (hBudget : deeds.length ≤ settleBudget) :
    s.fire e = turn := by
  cases hFires with
  | @failed fault hResult hFault =>
      unfold fire
      cases fault with
      | closedGate state label =>
          exact absurd rfl (hFault state label)
      | noTransition | noInitialState | chart
      | failedAction => simp only [hResult]
  | refused hResult =>
      unfold fire
      simp only [hResult]
  | performed hResult hSettles =>
      have hSettled :=
        hSettles.settle_eq (Nat.le_of_succ_le hBudget)
      unfold fire
      simp only [hResult, hSettled]

theorem Fires.isStalled_eq
    {s : Session}
    {e : Event}
    {deeds : List Deed}
    {turn : Turn}
    (hFires : Fires s e deeds turn) :
    turn.isStalled = false := by
  cases hFires with
  | failed => rfl
  | refused => rfl
  | performed _ hSettles => exact hSettles.isStalled_eq

theorem Fires.unique
    {s : Session}
    {e : Event}
    {deeds deeds' : List Deed}
    {turn turn' : Turn}
    (hFires : Fires s e deeds turn)
    (hOther : Fires s e deeds' turn') :
    deeds = deeds' ∧ turn = turn' := by
  cases hFires with
  | failed hResult hFault =>
      cases hOther with
      | failed => exact ⟨rfl, rfl⟩
      | refused hResult' =>
          cases hResult.symm.trans hResult'
          exact absurd rfl (hFault _ _)
      | performed hResult' =>
          cases hResult.symm.trans hResult'
  | refused hResult =>
      cases hOther with
      | failed hResult' hFault' =>
          cases hResult.symm.trans hResult'
          exact absurd rfl (hFault' _ _)
      | refused => exact ⟨rfl, rfl⟩
      | performed hResult' =>
          cases hResult.symm.trans hResult'
  | performed hResult hSettles =>
      cases hOther with
      | failed hResult' => cases hResult.symm.trans hResult'
      | refused hResult' => cases hResult.symm.trans hResult'
      | performed _ hSettles' =>
          rcases hSettles.unique hSettles' with ⟨rfl, rfl⟩
          exact ⟨rfl, rfl⟩

------------------------------------------------------------
-- Calls
------------------------------------------------------------

/- The event that a call fires. -/
def Call.event : Call → Event
  | .submit event => event
  | .insertCard _ => .insertCard
  | .inputPin _ => .inputPin

/- The session in which the event of a call is fired. -/
def ready (s : Session) : Call → Session
  | .submit _ => s
  | .insertCard name =>
      { s with kiosk := { s.kiosk with inserted := some name } }
  | .inputPin pin =>
      { s with kiosk := { s.kiosk with pinEntry := some pin } }

/- Whoever puts in a card or a pin moves no machine. -/
theorem ready_machine
    (s : Session)
    (c : Call) :
    (s.ready c).machine = s.machine := by
  cases c <;> rfl

/- What a call does once its event has been fired. -/
def finish (s : Session) : Call → Session
  | .submit _ => s
  | .insertCard _ =>
      if s.machine.isIn Screen.waitForPin.label then
        s
      else
        { s with kiosk := s.kiosk.eject }
  | .inputPin _ => s

/- A call makes ready, fires its event, and finishes. -/
theorem call_session
    (s : Session)
    (c : Call) :
    (s.call c).session =
      ((s.ready c).fire c.event).session.finish c := by
  cases c with
  | submit event => rfl
  | insertCard name =>
      exact apply_ite Turn.session _ _ _
  | inputPin pin => rfl

/- A call is stalled if its event is when it is fired. -/
theorem call_isStalled
    (s : Session)
    (c : Call) :
    (s.call c).isStalled =
      ((s.ready c).fire c.event).isStalled := by
  cases c with
  | submit event => rfl
  | insertCard name =>
      have hSplit := apply_ite Turn.isStalled
      exact (hSplit _ _ _).trans (ite_self _)
  | inputPin pin => rfl

------------------------------------------------------------
-- Visits
------------------------------------------------------------

/- What is attempted during a visit, and what it leaves. -/
inductive Visits :
    Session → List Call → List Deed → Session → Prop where
  | nil {s : Session} : Visits s [] [] s
  | cons
      {s : Session}
      {c : Call}
      {deeds : List Deed}
      {turn : Turn}
      {rest : List Call}
      {later : List Deed}
      {s' : Session}
      (hFires : Fires (s.ready c) c.event deeds turn)
      (hRest :
        Visits (turn.session.finish c) rest later s') :
      Visits s (c :: rest) (deeds ++ later) s'

/- A visit has only one course. -/
theorem Visits.unique
    {s s' s'' : Session}
    {calls : List Call}
    {deeds deeds' : List Deed}
    (hVisits : Visits s calls deeds s')
    (hOther : Visits s calls deeds' s'') :
    deeds = deeds' ∧ s' = s'' := by
  induction hVisits generalizing deeds' with
  | nil =>
      cases hOther
      exact ⟨rfl, rfl⟩
  | cons hFires _ ih =>
      cases hOther with
      | cons hFires' hRest' =>
          rcases hFires.unique hFires' with ⟨rfl, rfl⟩
          rcases ih hRest' with ⟨rfl, rfl⟩
          exact ⟨rfl, rfl⟩

end Session

end Statechart
