import Statechart.Machine.Walk
import Statechart.Proofs.Chart.Closed

/-
  This file states what an attempt at a transition does, as
  a relation with one case for each way in which it can end,
  and shows that machines conduct their attempts that way.

  The deeds of an attempt are the gate that is checked, the
  actions that are run, and the move. They form one block:
  gate, exit action, move, entry action, action of the
  transition. Each hook is the one that its slot holds in
  the scene that the phase before it leaves.

  Key definitions include:
    * `Machine.Walks`
    * `Block`
    * `Asked`
    * `Called`
    * `Moved`
    * `Crossed`
    * `Conduct`

  Key theorems include:
    * `Machine.perform_conducted`
    * `Conduct.sameTopology`
    * `Conduct.walks`
-/

namespace Statechart

------------------------------------------------------------
-- Deeds
------------------------------------------------------------

namespace Happening

variable {G A : Type}

/- Deeds are checks, actions and moves. -/
def isDeed : Happening G A → Bool
  | checked _ _ _ => true
  | ran _ _ _ _ => true
  | moved _ _ _ => true
  | logged _ _ => false
  | noted _ => false

def isAction : Happening G A → Bool
  | ran _ _ _ _ => true
  | _ => false

/- What a host says is no deed. -/
@[simp]
theorem filter_isDeed_map_noted
    (notes : List String) :
    (notes.map noted : List (Happening G A)).filter
      isDeed = [] := by
  simp [List.filter_eq_nil_iff, isDeed]

/- The lines for a logger are no deeds. -/
@[simp]
theorem filter_isDeed_log
    (m : Machine)
    (line : String) :
    (m.log line : List (Happening G A)).filter isDeed =
      [] := by
  simp [Machine.log, List.filter_eq_nil_iff, isDeed]

end Happening

/- The deeds of an attempt, phase by phase. -/
structure Block (G A : Type) where
  gate : List (Happening G A) := []
  exit : List (Happening G A) := []
  move : List (Happening G A) := []
  entry : List (Happening G A) := []
  action : List (Happening G A) := []

namespace Block

variable {G A : Type}

/- All deeds in the order in which they are done. -/
def deeds (b : Block G A) : List (Happening G A) :=
  b.gate ++ b.exit ++ b.move ++ b.entry ++ b.action

/- The actions that were run. -/
def actions (b : Block G A) : List (Happening G A) :=
  b.exit ++ b.entry ++ b.action

end Block

------------------------------------------------------------
-- Phases
------------------------------------------------------------

/-
  Asking for a transition gives a verdict. A transition
  without a gate is open; otherwise its gate is checked
  once, with the state that it leaves.
-/
inductive Asked
    {G A W : Type}
    (host : Host G A W)
    (scene : Scene G A W)
    (state label : String) :
    Bool → Scene G A W → List (Happening G A) → Prop where
  | unguarded
      (hGate : scene.chart.gateOf state label = none) :
      Asked host scene state label true scene []
  | guarded
      {gate : G}
      {s : State G A}
      {reply : Reply G A W Bool}
      (hGate : scene.chart.gateOf state label = some gate)
      (hState : scene.chart.state? state = some s)
      (hReply :
        host.check gate scene.chart s scene.world = reply) :
      Asked host scene state label reply.value
        (scene.hear reply) [.checked gate s reply.value]

/-
  An empty slot lets an attempt go on. The action in a slot
  is run once, with the state that is due.
-/
inductive Called
    {G A W : Type}
    (host : Host G A W)
    (scene : Scene G A W)
    (kind : HookKind)
    (slot : Option A)
    (state : String) :
    Except String Unit → Scene G A W →
      List (Happening G A) → Prop where
  | absent
      (hSlot : slot = none) :
      Called host scene kind slot state (.ok ()) scene []
  | called
      {action : A}
      {s : State G A}
      {reply : Reply G A W (Except String Unit)}
      (hSlot : slot = some action)
      (hState : scene.chart.state? state = some s)
      (hReply :
        host.run action scene.chart s scene.world = reply) :
      Called host scene kind slot state reply.value
        (scene.hear reply) [.ran kind action s reply.value]

/-
  A move changes the current state. It adds one record to
  the journal of a machine that keeps one and nothing else.
-/
structure Moved
    (m : Machine)
    (label target : String)
    (m' : Machine) : Prop where
  current : m'.current = target
  settings : m'.settings = m.settings
  logger : m'.logger = m.logger
  recorded :
    m.settings.keepsJournal = true →
      ∃ time,
        m'.journal =
          m.journal.record ⟨m.current, label, target, time⟩
  unrecorded :
    m.settings.keepsJournal = false →
      m'.journal = m.journal

------------------------------------------------------------
-- Attempts
------------------------------------------------------------

/-
  The machine has left the old state: its gate was open, its
  exit action was absent or succeeded, and the move is made.
-/
inductive Crossed
    {G A W : Type}
    (host : Host G A W)
    (m : Machine)
    (scene : Scene G A W)
    (label : String) :
    Transition G A → Machine → Scene G A W →
      Block G A → Prop where
  | intro
      {t : Transition G A}
      {m' : Machine}
      {scene₁ scene₂ : Scene G A W}
      {gate exit : List (Happening G A)}
      (hFound :
        scene.chart.transition? m.current label = some t)
      (hAsked :
        Asked host scene m.current label true scene₁ gate)
      (hExit :
        Called host scene₁ .exit
          (scene₁.chart.exitOf m.current) m.current (.ok ())
          scene₂ exit)
      (hMoved : Moved m label t.destination m') :
      Crossed host m scene label t m' scene₂
        { gate := gate
          exit := exit
          move := [.moved m.current label t.destination] }

/-
  The ways in which an attempt can end, each with its result
  and with the machine, the scene and the block of deeds
  that it leaves.
-/
inductive Conduct
    {G A W : Type}
    (host : Host G A W)
    (m : Machine)
    (scene : Scene G A W)
    (label : String) :
    Except Fault Unit → Machine → Scene G A W →
      Block G A → Prop where
  | unknown
      (hMissing :
        scene.chart.transition? m.current label = none) :
      Conduct host m scene label
        (.error (.noTransition m.current label)) m scene {}
  | closed
      {t : Transition G A}
      {scene₁ : Scene G A W}
      {gate : List (Happening G A)}
      (hFound :
        scene.chart.transition? m.current label = some t)
      (hAsked :
        Asked host scene m.current label false scene₁
          gate) :
      Conduct host m scene label
        (.error (.closedGate m.current label)) m scene₁
        { gate := gate }
  | failedExit
      {t : Transition G A}
      {scene₁ scene₂ : Scene G A W}
      {gate exit : List (Happening G A)}
      {cause : String}
      (hFound :
        scene.chart.transition? m.current label = some t)
      (hAsked :
        Asked host scene m.current label true scene₁ gate)
      (hExit :
        Called host scene₁ .exit
          (scene₁.chart.exitOf m.current) m.current
          (.error cause) scene₂ exit) :
      Conduct host m scene label
        (.error (.failedAction .exit m.current cause)) m
        scene₂ { gate := gate, exit := exit }
  | failedEntry
      {t : Transition G A}
      {m' : Machine}
      {scene₂ scene₃ : Scene G A W}
      {block : Block G A}
      {entry : List (Happening G A)}
      {cause : String}
      (hCrossed :
        Crossed host m scene label t m' scene₂ block)
      (hEntry :
        Called host scene₂ .entry
          (scene₂.chart.entryOf t.destination) t.destination
          (.error cause) scene₃ entry) :
      Conduct host m scene label
        (.error (.failedAction .entry t.destination cause))
        m' scene₃ { block with entry := entry }
  | failedAction
      {t : Transition G A}
      {m' : Machine}
      {scene₂ scene₃ scene₄ : Scene G A W}
      {block : Block G A}
      {entry action : List (Happening G A)}
      {cause : String}
      (hCrossed :
        Crossed host m scene label t m' scene₂ block)
      (hEntry :
        Called host scene₂ .entry
          (scene₂.chart.entryOf t.destination) t.destination
          (.ok ()) scene₃ entry)
      (hAction :
        Called host scene₃ .transition
          (scene₃.chart.actionOf m.current label)
          t.destination (.error cause) scene₄ action) :
      Conduct host m scene label
        (.error
          (.failedAction .transition t.destination cause))
        m' scene₄
        { block with entry := entry, action := action }
  | done
      {t : Transition G A}
      {m' : Machine}
      {scene₂ scene₃ scene₄ : Scene G A W}
      {block : Block G A}
      {entry action : List (Happening G A)}
      (hCrossed :
        Crossed host m scene label t m' scene₂ block)
      (hEntry :
        Called host scene₂ .entry
          (scene₂.chart.entryOf t.destination) t.destination
          (.ok ()) scene₃ entry)
      (hAction :
        Called host scene₃ .transition
          (scene₃.chart.actionOf m.current label)
          t.destination (.ok ()) scene₄ action) :
      Conduct host m scene label (.ok ()) m' scene₄
        { block with entry := entry, action := action }

------------------------------------------------------------
-- Phases Keep the Topology
------------------------------------------------------------

section Phases

variable {G A W R : Type}
variable {host : Host G A W}
variable {scene scene' : Scene G A W}

@[simp]
theorem Scene.sameTopology_hear
    (scene : Scene G A W)
    (reply : Reply G A W R) :
    (scene.hear reply).chart.SameTopology scene.chart :=
  Chart.unhooked_editAll _ _

theorem Asked.sameTopology
    {state label : String}
    {verdict : Bool}
    {trace : List (Happening G A)}
    (hAsked :
      Asked host scene state label verdict scene' trace) :
    scene'.chart.SameTopology scene.chart := by
  cases hAsked with
  | unguarded hGate => rfl
  | guarded hGate hState hReply =>
      exact scene.sameTopology_hear _

theorem Called.sameTopology
    {kind : HookKind}
    {slot : Option A}
    {state : String}
    {outcome : Except String Unit}
    {trace : List (Happening G A)}
    (hCalled :
      Called host scene kind slot state outcome scene'
        trace) :
    scene'.chart.SameTopology scene.chart := by
  cases hCalled with
  | absent hSlot => rfl
  | called hSlot hState hReply =>
      exact scene.sameTopology_hear _

/- A call with a registered state obeys the relation. -/
theorem Host.act_called
    (host : Host G A W)
    {scene : Scene G A W}
    {state : String}
    (hState : scene.chart.hasState state = true)
    (kind : HookKind)
    (slot : Option A) :
    Called host scene kind slot state
      (host.act scene kind slot state).value
      (host.act scene kind slot state).scene
      ((host.act scene kind slot state).trace.filter
        Happening.isDeed) := by
  rcases scene.chart.hasState_iff.mp hState with
    ⟨s, hFound⟩
  unfold act
  rw [hFound]
  cases slot with
  | none => exact Called.absent rfl
  | some action =>
      simp only [runWith, List.filter_cons,
        Happening.isDeed, if_true,
        Happening.filter_isDeed_map_noted]
      exact Called.called rfl hFound rfl

/- A question about a transition obeys the relation. -/
theorem Host.ask_asked
    (host : Host G A W)
    {scene : Scene G A W}
    {state : String}
    (hState : scene.chart.hasState state = true)
    (label : String) :
    Asked host scene state label
      (host.ask scene state label).value
      (host.ask scene state label).scene
      ((host.ask scene state label).trace.filter
        Happening.isDeed) := by
  rcases scene.chart.hasState_iff.mp hState with
    ⟨s, hFound⟩
  unfold ask
  rw [hFound]
  cases hGate : scene.chart.gateOf state label with
  | none => exact Asked.unguarded hGate
  | some gate =>
      simp only [checkWith, List.filter_cons,
        Happening.isDeed, if_true,
        Happening.filter_isDeed_map_noted]
      exact Asked.guarded hGate hFound rfl

end Phases

------------------------------------------------------------
-- Machines That Walk a Chart
------------------------------------------------------------

/-
  A machine walks a chart if its current state is registered
  and the chart is closed, so that it can never lose its way.
-/
structure Machine.Walks
    {G A : Type}
    (m : Machine)
    (c : Chart G A) : Prop where
  registered : c.hasState m.current = true
  closed : c.Closed

theorem Machine.Walks.of_sameTopology
    {G A : Type}
    {m : Machine}
    {c d : Chart G A}
    (hWalks : m.Walks c)
    (hSame : d.SameTopology c) :
    m.Walks d where
  registered :=
    (hSame.hasState_eq m.current).trans hWalks.registered
  closed := hWalks.closed.of_sameTopology hSame

section Keeping

variable {G A W : Type}
variable {host : Host G A W}
variable {m m' : Machine}
variable {scene scene' : Scene G A W}
variable {label : String}
variable {block : Block G A}

theorem Crossed.sameTopology
    {t : Transition G A}
    (hCrossed :
      Crossed host m scene label t m' scene' block) :
    scene'.chart.SameTopology scene.chart := by
  cases hCrossed with
  | intro hFound hAsked hExit hMoved =>
      exact hExit.sameTopology.trans hAsked.sameTopology

theorem Crossed.found
    {t : Transition G A}
    (hCrossed :
      Crossed host m scene label t m' scene' block) :
    scene.chart.transition? m.current label = some t := by
  cases hCrossed with
  | intro hFound hAsked hExit hMoved => exact hFound

theorem Crossed.action_eq
    {t : Transition G A}
    (hCrossed :
      Crossed host m scene label t m' scene' block) :
    block.action = [] := by
  cases hCrossed with
  | intro hFound hAsked hExit hMoved => rfl

/- The deeds after the move follow those up to it. -/
theorem Crossed.deeds_extend
    {t : Transition G A}
    (hCrossed :
      Crossed host m scene label t m' scene' block)
    (entry action : List (Happening G A)) :
    Block.deeds
        { block with entry := entry, action := action } =
      block.deeds ++ entry ++ action := by
  cases hCrossed with
  | intro hFound hAsked hExit hMoved =>
      simp [Block.deeds]

theorem Crossed.moved
    {t : Transition G A}
    (hCrossed :
      Crossed host m scene label t m' scene' block) :
    Moved m label t.destination m' := by
  cases hCrossed with
  | intro hFound hAsked hExit hMoved => exact hMoved

/- An attempt keeps the topology of the chart. -/
theorem Conduct.sameTopology
    {result : Except Fault Unit}
    (hConduct :
      Conduct host m scene label result m' scene' block) :
    scene'.chart.SameTopology scene.chart := by
  cases hConduct with
  | unknown hMissing => rfl
  | closed hFound hAsked => exact hAsked.sameTopology
  | failedExit hFound hAsked hExit =>
      exact hExit.sameTopology.trans hAsked.sameTopology
  | failedEntry hCrossed hEntry =>
      exact hEntry.sameTopology.trans hCrossed.sameTopology
  | failedAction hCrossed hEntry hAction =>
      exact
        hAction.sameTopology.trans
          (hEntry.sameTopology.trans hCrossed.sameTopology)
  | done hCrossed hEntry hAction =>
      exact
        hAction.sameTopology.trans
          (hEntry.sameTopology.trans hCrossed.sameTopology)

/-
  An attempt either leaves the machine as it was or makes a
  move along a transition of its current state.
-/
theorem Conduct.unchanged_or_moved
    {result : Except Fault Unit}
    (hConduct :
      Conduct host m scene label result m' scene' block) :
    m' = m ∨
      ∃ t,
        scene.chart.transition? m.current label = some t ∧
          Moved m label t.destination m' := by
  cases hConduct with
  | unknown hMissing => exact Or.inl rfl
  | closed hFound hAsked => exact Or.inl rfl
  | failedExit hFound hAsked hExit => exact Or.inl rfl
  | failedEntry hCrossed hEntry =>
      exact Or.inr ⟨_, hCrossed.found, hCrossed.moved⟩
  | failedAction hCrossed hEntry hAction =>
      exact Or.inr ⟨_, hCrossed.found, hCrossed.moved⟩
  | done hCrossed hEntry hAction =>
      exact Or.inr ⟨_, hCrossed.found, hCrossed.moved⟩

/- A machine that walks a chart goes on doing so. -/
theorem Conduct.walks
    {result : Except Fault Unit}
    (hConduct :
      Conduct host m scene label result m' scene' block)
    (hWalks : m.Walks scene.chart) :
    m'.Walks scene'.chart := by
  have hKept := hWalks.of_sameTopology hConduct.sameTopology
  rcases hConduct.unchanged_or_moved with
    rfl | ⟨t, hFound, hMoved⟩
  · exact hKept
  · refine ⟨?_, hKept.closed⟩
    rw [hMoved.current, hConduct.sameTopology.hasState_eq]
    exact hWalks.closed _ _ _ hFound

end Keeping

------------------------------------------------------------
-- Performing Transitions
------------------------------------------------------------

namespace Machine

variable {G A W : Type}

theorem moveTo_moved
    (m : Machine)
    (label target : String)
    (time : Timestamp) :
    Moved m label target (m.moveTo label target time) where
  current := rfl
  settings := rfl
  logger := rfl
  recorded hKeeps := ⟨time, by simp [moveTo, hKeeps]⟩
  unrecorded hKeeps := by simp [moveTo, hKeeps]

/-
  Running the action of a slot either ends the attempt with
  its failure or goes on in the scene that it leaves.
-/
theorem runThen_called
    (host : Host G A W)
    (m : Machine)
    {scene : Scene G A W}
    {state : String}
    (hState : scene.chart.hasState state = true)
    (kind : HookKind)
    (slot : Option A)
    (next : Scene G A W → Attempt G A W) :
    (∃ cause scene' trace,
      Called host scene kind slot state (.error cause)
          scene' (trace.filter Happening.isDeed) ∧
        runThen host m scene kind slot state next =
          ⟨.error (.failedAction kind state cause), m,
            scene', trace⟩) ∨
      ∃ scene' trace,
        Called host scene kind slot state (.ok ()) scene'
            (trace.filter Happening.isDeed) ∧
          runThen host m scene kind slot state next =
            (next scene').after trace := by
  have hCalled := host.act_called hState kind slot
  unfold runThen
  cases hValue :
      (host.act scene kind slot state).value with
  | error cause =>
      rw [hValue] at hCalled
      left
      refine ⟨cause, _, _, hCalled, ?_⟩
      simp only [hValue]
  | ok u =>
      rw [hValue] at hCalled
      right
      refine ⟨_, _, hCalled, ?_⟩
      simp only [hValue]

/-
  The rest of an attempt conducts it if it completes the
  block of deeds that are done already.
-/
def Completes
    (host : Host G A W)
    (m : Machine)
    (scene : Scene G A W)
    (label : String)
    (earlier : List (Happening G A))
    (rest : Attempt G A W) : Prop :=
  ∃ block,
    Conduct host m scene label rest.result rest.machine
        rest.scene block ∧
      block.deeds =
        earlier ++ rest.trace.filter Happening.isDeed

/- Happenings before the rest are done earlier. -/
theorem Completes.after
    {host : Host G A W}
    {m : Machine}
    {scene : Scene G A W}
    {label : String}
    {earlier : List (Happening G A)}
    {rest : Attempt G A W}
    (trace : List (Happening G A))
    (hRest :
      Completes host m scene label
        (earlier ++ trace.filter Happening.isDeed) rest) :
    Completes host m scene label earlier
      (rest.after trace) := by
  rcases hRest with ⟨block, hConduct, hDeeds⟩
  refine ⟨block, hConduct, ?_⟩
  rw [hDeeds]
  simp [Attempt.after, List.filter_append]

section Phases

variable {host : Host G A W}
variable {m m' : Machine}
variable {scene scene₂ scene₃ : Scene G A W}
variable {label : String}
variable {t : Transition G A}
variable {block : Block G A}

/- The last phase: the action of the transition. -/
theorem conclude_completes
    {entry : List (Happening G A)}
    (hCrossed :
      Crossed host m scene label t m' scene₂ block)
    (hEntry :
      Called host scene₂ .entry
        (scene₂.chart.entryOf t.destination) t.destination
        (.ok ()) scene₃ entry)
    (hState :
      scene₃.chart.hasState t.destination = true) :
    Completes host m scene label (block.deeds ++ entry)
      (conclude host m' m.current label scene₃) := by
  unfold conclude
  rw [hCrossed.moved.current]
  rcases runThen_called host m' hState .transition
      (scene₃.chart.actionOf m.current label)
      (fun done => ⟨.ok (), m', done, []⟩) with
    ⟨cause, scene₄, trace, hAction, hEq⟩ |
      ⟨scene₄, trace, hAction, hEq⟩
  · rw [hEq]
    refine
      ⟨_, Conduct.failedAction hCrossed hEntry hAction, ?_⟩
    rw [hCrossed.deeds_extend]
  · rw [hEq]
    refine ⟨_, Conduct.done hCrossed hEntry hAction, ?_⟩
    rw [hCrossed.deeds_extend]
    simp [Attempt.after]

/- The entry action and what comes after it. -/
theorem arrive_completes
    (hCrossed :
      Crossed host m scene label t m' scene₂ block)
    (hState :
      scene₂.chart.hasState t.destination = true) :
    Completes host m scene label block.deeds
      (arrive host m' m.current label scene₂) := by
  unfold arrive
  rw [hCrossed.moved.current]
  rcases runThen_called host m' hState .entry
      (scene₂.chart.entryOf t.destination)
      (conclude host m' m.current label) with
    ⟨cause, scene₃, trace, hEntry, hEq⟩ |
      ⟨scene₃, trace, hEntry, hEq⟩
  · rw [hEq]
    refine ⟨_, Conduct.failedEntry hCrossed hEntry, ?_⟩
    have hDeeds := hCrossed.deeds_extend
      (trace.filter Happening.isDeed) []
    rw [List.append_nil, ← hCrossed.action_eq] at hDeeds
    exact hDeeds
  · rw [hEq]
    apply Completes.after
    apply conclude_completes hCrossed hEntry
    rw [hEntry.sameTopology.hasState_eq]
    exact hState

/- The exit action, the move, and what comes after it. -/
theorem depart_completes
    {scene₁ : Scene G A W}
    {gate : List (Happening G A)}
    (hWalks : m.Walks scene.chart)
    (hFound :
      scene.chart.transition? m.current label = some t)
    (hAsked :
      Asked host scene m.current label true scene₁ gate) :
    Completes host m scene label gate
      (depart host m label t.destination scene₁) := by
  have hWalks₁ := hWalks.of_sameTopology hAsked.sameTopology
  unfold depart
  rcases runThen_called host m
      hWalks₁.registered .exit
      (scene₁.chart.exitOf m.current)
      (travel host m label t.destination) with
    ⟨cause, scene₂, trace, hExit, hEq⟩ |
      ⟨scene₂, trace, hExit, hEq⟩
  · rw [hEq]
    refine
      ⟨_, Conduct.failedExit hFound hAsked hExit, ?_⟩
    simp [Block.deeds]
  · rw [hEq]
    apply Completes.after
    unfold travel
    apply Completes.after
    have hCrossed :=
      Crossed.intro hFound hAsked hExit
        (m.moveTo_moved label t.destination
          (host.clock scene₂.world))
    have hState :
        scene₂.chart.hasState t.destination = true := by
      rw [hCrossed.sameTopology.hasState_eq]
      exact hWalks.closed _ _ _ hFound
    have hArrive := arrive_completes hCrossed hState
    simpa [Block.deeds, Happening.isDeed, List.filter_cons]
      using hArrive

end Phases

/-
  Every attempt of a machine that walks its chart ends in
  one of the ways of `Conduct`, and its deeds are the block
  of that way.
-/
theorem perform_conducted
    (host : Host G A W)
    (m : Machine)
    {scene : Scene G A W}
    (hWalks : m.Walks scene.chart)
    (label : String) :
    ∃ block,
      Conduct host m scene label
          (m.perform host scene label).result
          (m.perform host scene label).machine
          (m.perform host scene label).scene block ∧
        block.deeds =
          (m.perform host scene label).trace.filter
            Happening.isDeed := by
  have hAsked :=
    host.ask_asked hWalks.registered label
  unfold perform
  cases hFound :
      scene.chart.transition? m.current label with
  | none =>
      refine ⟨_, Conduct.unknown hFound, ?_⟩
      simp [refuse, Block.deeds]
  | some t =>
      simp only
      cases hValue :
          (host.ask scene m.current label).value with
      | false =>
          rw [hValue] at hAsked
          refine ⟨_, Conduct.closed hFound hAsked, ?_⟩
          simp [refuse, Attempt.after, Block.deeds]
      | true =>
          rw [hValue] at hAsked
          have hState :
              (host.ask scene m.current
                label).scene.chart.hasState
                  t.destination = true := by
            rw [hAsked.sameTopology.hasState_eq]
            exact hWalks.closed _ _ _ hFound
          simp only [if_true, hState]
          have hDeparted :
              Completes host m scene label [] _ :=
            (depart_completes hWalks hFound hAsked).after _
          exact hDeparted

/- Asking whether a transition could be performed. -/
theorem can_sameTopology
    (host : Host G A W)
    (m : Machine)
    {scene : Scene G A W}
    (hWalks : m.Walks scene.chart)
    (label : String) :
    (m.can host scene label).scene.chart.SameTopology
      scene.chart := by
  unfold can
  cases scene.chart.transition? m.current label with
  | none => rfl
  | some t =>
      exact (host.ask_asked hWalks.registered
        label).sameTopology

end Machine

end Statechart
