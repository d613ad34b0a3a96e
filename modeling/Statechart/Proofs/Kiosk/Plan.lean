import Statechart.Proofs.Kiosk.Opening

/-
  This file states what an event does at each screen of the
  kiosk. The plan of the kiosk says where each event leads,
  whether it can be refused, and which operations are done
  on the way. The chart of the kiosk is as planned, and a
  session at a screen performs events as planned.

  Key definitions include:
    * `Kiosk.Way`
    * `Kiosk.way?`
    * `Kiosk.Way.effect`
    * `Kiosk.Planned`
    * `Session.At`

  Key theorems include:
    * `Kiosk.chart_planned`
    * `Session.perform_of_no_way`
    * `Session.perform_of_refusal`
    * `Session.perform_of_way`
-/

namespace Statechart

------------------------------------------------------------
-- The Plan of the Kiosk
------------------------------------------------------------

namespace Kiosk

/-
  A way leads to a screen. It may be refused, and something
  may be done on it.
-/
structure Way where
  target : Screen
  gated : Bool := false
  action : Option Operation := none
deriving DecidableEq

/- Where an event leads from a screen. -/
def way? : Screen → Event → Option Way
  | .idle, .systemReady => some { target := .waiting }
  | .waiting, .cancelEject => some { target := .waiting }
  | .waiting, .insertCard =>
      some { target := .waitForPin, gated := true }
  | .waitForPin, .inputPin =>
      some { target := .checking, gated := true }
  | .waitForPin, .cancelEject =>
      some { target := .waiting, action := some .ejectCard }
  | .checking, .preapprove =>
      some
        { target := .pending
          gated := true
          action := some .reserveTotal }
  | .checking, .insufficientFunds =>
      some { target := .rejected }
  | .rejected, .cancelEject =>
      some { target := .waiting, action := some .ejectCard }
  | .pending, .addTicket =>
      some
        { target := .checking
          gated := true
          action := some .addTicket }
  | .pending, .removeTicket =>
      some
        { target := .pending
          gated := true
          action := some .removeTicket }
  | .pending, .confirmPurchase =>
      some { target := .purchased, action := some .purchase }
  | .pending, .cancelEject =>
      some { target := .waiting, action := some .cancelOrder }
  | .purchased, .printSpooled => some { target := .waiting }
  | _, _ => none

/- What is done when a screen is left. -/
def exitOf : Screen → Option Operation
  | .idle => some .announceReady
  | .waitForPin => some .openOrder
  | .purchased => some .printReceipt
  | _ => none

/- What is done when a screen is entered. -/
def entryOf : Screen → Option Operation
  | .waiting => some .askForCard
  | .waitForPin => some .askForPin
  | .checking => some .checkFunds
  | .rejected => some .rejectCard
  | .purchased => some .thankCustomer
  | _ => none

/- The kiosk after an operation, if there is one. -/
def afterAny
    (k : Kiosk) :
    Option Operation → Kiosk
  | none => k
  | some operation => k.after operation

/- What a way from a screen makes of the kiosk. -/
def Way.effect
    (way : Way)
    (screen : Screen)
    (k : Kiosk) : Kiosk :=
  let left := k.afterAny (exitOf screen)
  let entered := left.afterAny (entryOf way.target)
  entered.afterAny way.action

/- What the plan says about the transition of an event. -/
def Way.slots
    (way : Way)
    (event : Event) :
    String × Option Event × Option Operation :=
  (way.target.label,
    if way.gated then some event else none, way.action)

/- A chart is as planned if it has all screens and ways. -/
structure Planned
    (c : Chart Event Operation) : Prop where
  registered :
    ∀ screen : Screen, c.hasState screen.label = true
  exits :
    ∀ screen : Screen,
      c.exitOf screen.label = exitOf screen
  entries :
    ∀ screen : Screen,
      c.entryOf screen.label = entryOf screen
  ways :
    ∀ (screen : Screen) (event : Event),
      (c.transition? screen.label event.label).map
          (fun t => (t.destination, t.gate, t.action)) =
        (way? screen event).map (Way.slots · event)

theorem mem_screens
    (screen : Screen) :
    screen ∈ (Vocabulary.all : List Screen) := by
  cases screen <;> decide

theorem mem_events
    (event : Event) :
    event ∈ (Vocabulary.all : List Event) := by
  cases event <;> decide

/- All slots of the chart are looked up. -/
theorem chart_slots :
    (∀ screen ∈ (Vocabulary.all : List Screen),
      chart.hasState screen.label = true ∧
        chart.exitOf screen.label = exitOf screen ∧
        chart.entryOf screen.label = entryOf screen) ∧
      ∀ screen ∈ (Vocabulary.all : List Screen),
        ∀ event ∈ (Vocabulary.all : List Event),
          (chart.transition? screen.label event.label).map
              (fun t => (t.destination, t.gate, t.action)) =
            (way? screen event).map (Way.slots · event) := by
  decide +kernel

theorem chart_planned : Planned chart where
  registered screen :=
    (chart_slots.1 screen (mem_screens screen)).1
  exits screen :=
    (chart_slots.1 screen (mem_screens screen)).2.1
  entries screen :=
    (chart_slots.1 screen (mem_screens screen)).2.2
  ways screen event :=
    chart_slots.2 screen (mem_screens screen) event
      (mem_events event)

------------------------------------------------------------
-- The Host of the Kiosk
------------------------------------------------------------

section Hosting

variable {c : Chart Event Operation}
variable {k : Kiosk}

/- Operations succeed, and they leave the chart alone. -/
theorem act_eq
    {state : String}
    (hState : c.hasState state = true)
    (kind : HookKind)
    (slot : Option Operation) :
    ∃ trace,
      host.act ⟨c, k⟩ kind slot state =
        ⟨.ok (), ⟨c, k.afterAny slot⟩, trace⟩ := by
  rcases c.hasState_iff.mp hState with ⟨s, hFound⟩
  unfold Host.act
  rw [hFound]
  cases slot with
  | none => exact ⟨[], rfl⟩
  | some operation => exact ⟨_, rfl⟩

theorem runThen_eq
    (m : Machine)
    {state : String}
    (hState : c.hasState state = true)
    (kind : HookKind)
    (slot : Option Operation)
    (next : Scene Event Operation Kiosk →
      Attempt Event Operation Kiosk) :
    ∃ trace,
      Machine.runThen host m ⟨c, k⟩ kind slot state next =
        (next ⟨c, k.afterAny slot⟩).after trace := by
  rcases act_eq (k := k) hState kind slot with
    ⟨trace, hAct⟩
  unfold Machine.runThen
  rw [hAct]
  exact ⟨trace, rfl⟩

/- A gate is closed if its event is refused. -/
theorem ask_eq
    {state label : String}
    (hState : c.hasState state = true)
    {t : Transition Event Operation}
    (hFound : c.transition? state label = some t) :
    ∃ trace,
      host.ask ⟨c, k⟩ state label =
        ⟨(t.gate.bind k.refusal?).isNone, ⟨c, k⟩, trace⟩ := by
  rcases c.hasState_iff.mp hState with ⟨s, hRegistered⟩
  unfold Host.ask Chart.gateOf
  rw [hRegistered, hFound]
  cases hGate : t.gate with
  | none =>
      simp only [hGate]
      exact ⟨[], rfl⟩
  | some event =>
      simp only [hGate]
      exact ⟨_, rfl⟩

------------------------------------------------------------
-- Phases of an Attempt
------------------------------------------------------------

theorem conclude_eq
    {m : Machine}
    (hState : c.hasState m.current = true)
    (origin label : String) :
    ∃ trace,
      m.conclude host origin label ⟨c, k⟩ =
        ⟨.ok (), m,
          ⟨c, k.afterAny (c.actionOf origin label)⟩,
          trace⟩ := by
  unfold Machine.conclude
  rcases runThen_eq (k := k) m hState .transition
      (c.actionOf origin label)
      (fun done => ⟨.ok (), m, done, []⟩) with
    ⟨trace, hConcluded⟩
  exact ⟨_, hConcluded⟩

theorem arrive_eq
    {m : Machine}
    (hState : c.hasState m.current = true)
    (origin label : String) :
    ∃ trace,
      m.arrive host origin label ⟨c, k⟩ =
        ⟨.ok (), m,
          ⟨c, (k.afterAny (c.entryOf m.current)).afterAny
              (c.actionOf origin label)⟩,
          trace⟩ := by
  unfold Machine.arrive
  rcases runThen_eq (k := k) m hState .entry
      (c.entryOf m.current)
      (m.conclude host origin label) with
    ⟨entered, hArrived⟩
  rcases conclude_eq (k := k.afterAny (c.entryOf m.current))
      hState origin label with
    ⟨acted, hConcluded⟩
  rw [hArrived, hConcluded]
  exact ⟨_, rfl⟩

/- Every operation on the way is done, in order. -/
theorem depart_eq
    {m : Machine}
    (hState : c.hasState m.current = true)
    {target : String}
    (hTarget : c.hasState target = true)
    (label : String) :
    ∃ m' trace,
      m.depart host label target ⟨c, k⟩ =
          ⟨.ok (), m',
            ⟨c, ((k.afterAny
                    (c.exitOf m.current)).afterAny
                  (c.entryOf target)).afterAny
                (c.actionOf m.current label)⟩,
            trace⟩ ∧
        m'.current = target := by
  unfold Machine.depart
  rcases runThen_eq (k := k) m hState .exit
      (c.exitOf m.current)
      (m.travel host label target) with
    ⟨left, hLeft⟩
  let moved := m.moveTo label target ⟨0, 0⟩
  have hMoved : c.hasState moved.current = true := hTarget
  rcases arrive_eq (k := k.afterAny (c.exitOf m.current))
      hMoved m.current label with
    ⟨arrived, hArrived⟩
  have hTravel :
      m.travel host label target
          ⟨c, k.afterAny (c.exitOf m.current)⟩ =
        (moved.arrive host m.current label
          ⟨c, k.afterAny (c.exitOf m.current)⟩).after _ :=
    rfl
  rw [hLeft, hTravel, hArrived]
  exact ⟨moved, _, rfl, rfl⟩

end Hosting

------------------------------------------------------------
-- Transitions as Planned
------------------------------------------------------------

namespace Planned

variable {c : Chart Event Operation}
variable {screen : Screen}
variable {event : Event}

/- Where a way leads on, there is a transition for it. -/
theorem exists_transition?
    (hPlanned : Planned c)
    {way : Way}
    (hWay : way? screen event = some way) :
    ∃ t,
      c.transition? screen.label event.label = some t ∧
        (t.destination, t.gate, t.action) =
          way.slots event := by
  have hSlots := hPlanned.ways screen event
  rw [hWay] at hSlots
  exact Option.map_eq_some_iff.mp hSlots

theorem transition?_eq_none
    (hPlanned : Planned c)
    (hWay : way? screen event = none) :
    c.transition? screen.label event.label = none := by
  have hSlots := hPlanned.ways screen event
  rw [hWay] at hSlots
  exact Option.map_eq_none_iff.mp hSlots

end Planned

end Kiosk

------------------------------------------------------------
-- Sessions at a Screen
------------------------------------------------------------

namespace Session

/- The machine of a session walks the kiosk's chart. -/
structure At
    (s : Session)
    (screen : Screen) : Prop where
  chart : s.chart = Kiosk.chart
  current : s.machine.current = screen.label

section Performing

variable {s : Session}
variable {screen : Screen}
variable {event : Event}

/- An event that leads nowhere changes nothing. -/
theorem perform_of_no_way
    (hAt : s.At screen)
    (hWay : Kiosk.way? screen event = none) :
    (s.perform event).result =
        .error (.noTransition screen.label event.label) ∧
      (s.perform event).session = s := by
  have hMissing :=
    Kiosk.chart_planned.transition?_eq_none hWay
  unfold perform Machine.perform
  simp only [hAt.chart, hAt.current, hMissing]
  refine ⟨rfl, ?_⟩
  rw [← hAt.chart]
  rfl

/- An event that is refused changes nothing. -/
theorem perform_of_refusal
    (hAt : s.At screen)
    {way : Kiosk.Way}
    (hWay : Kiosk.way? screen event = some way)
    (hGated : way.gated = true)
    {reason : Refusal}
    (hRefused : s.kiosk.refusal? event = some reason) :
    (s.perform event).result =
        .error (.closedGate screen.label event.label) ∧
      (s.perform event).session = s := by
  rcases Kiosk.chart_planned.exists_transition? hWay with
    ⟨t, hFound, hSlots⟩
  rcases Kiosk.ask_eq (k := s.kiosk)
      (Kiosk.chart_planned.registered screen) hFound with
    ⟨trace, hAsk⟩
  have hGate : t.gate = some event := by
    have hGates := congrArg (·.2.1) hSlots
    simpa [Kiosk.Way.slots, hGated] using hGates
  unfold perform Machine.perform
  simp only [hAt.chart, hAt.current, hFound, hAsk, hGate,
    Option.bind_some, hRefused, Option.isNone_some]
  refine ⟨rfl, ?_⟩
  rw [← hAt.chart]
  rfl

/- Any other event is performed as planned. -/
theorem perform_of_way
    (hAt : s.At screen)
    {way : Kiosk.Way}
    (hWay : Kiosk.way? screen event = some way)
    (hOpen :
      way.gated = true → s.kiosk.refusal? event = none) :
    (s.perform event).result = .ok () ∧
      (s.perform event).session.At way.target ∧
      (s.perform event).session.kiosk =
        way.effect screen s.kiosk := by
  have hPlanned := Kiosk.chart_planned
  rcases hPlanned.exists_transition? hWay with
    ⟨t, hFound, hSlots⟩
  rcases Kiosk.ask_eq (k := s.kiosk)
      (hPlanned.registered screen) hFound with
    ⟨trace, hAsk⟩
  have hTarget : t.destination = way.target.label :=
    congrArg (·.1) hSlots
  have hGate :
      t.gate = if way.gated then some event else none :=
    congrArg (·.2.1) hSlots
  have hAction : t.action = way.action :=
    congrArg (·.2.2) hSlots
  have hVerdict :
      (t.gate.bind s.kiosk.refusal?).isNone = true := by
    rw [hGate]
    cases hGated : way.gated with
    | false => rfl
    | true => simp [hOpen hGated]
  have hState :
      Kiosk.chart.hasState s.machine.current = true := by
    rw [hAt.current]
    exact hPlanned.registered screen
  rcases Kiosk.depart_eq (k := s.kiosk) hState
      (hPlanned.registered way.target) event.label with
    ⟨m', departed, hDepart, hCurrent⟩
  have hActionOf :
      Kiosk.chart.actionOf screen.label event.label =
        way.action := by
    simp only [Chart.actionOf, hFound, hAction]
  simp only [hAt.current, hPlanned.exits, hPlanned.entries,
    hActionOf] at hDepart
  unfold perform Machine.perform
  simp only [hAt.chart, hAt.current, hFound, hAsk, hVerdict,
    hTarget, hPlanned.registered, if_true, hDepart]
  exact ⟨rfl, ⟨rfl, hCurrent⟩, rfl⟩

end Performing

end Session

end Statechart
