import Statechart.Chart.Hook
import Statechart.Dot.Drawing
import Statechart.Grid
import Statechart.LabelMap.Lemmas
import Statechart.Rule.Writing

/-
  This file defines the topology of a chart: what is left of
  it when every hook is cleared. Edits of hooks do not touch
  the topology, and every view of a chart that does not run
  hooks is a view of its topology.

  Key definitions include:
    * `Chart.unhooked`
    * `Chart.SameTopology`

  Key theorems include:
    * `Chart.unhooked_edit`
    * `Chart.transition?_unhooked`
    * `Chart.SameTopology.ruleText_eq`
    * `Chart.SameTopology.dot_eq`
    * `Chart.SameTopology.grid_eq`
    * `Chart.SameTopology.validate_eq`
    * `Chart.SameTopology.outline_eq`
-/

namespace Statechart

------------------------------------------------------------
-- Clearing Hooks
------------------------------------------------------------

namespace Transition

variable {G A : Type}

/- A transition with both of its hooks cleared. -/
def unhooked
    (t : Transition G A) : Transition G A :=
  { t with gate := none, action := none }

@[simp]
theorem unhooked_label
    (t : Transition G A) :
    t.unhooked.label = t.label :=
  rfl

@[simp]
theorem unhooked_source
    (t : Transition G A) :
    t.unhooked.source = t.source :=
  rfl

@[simp]
theorem unhooked_destination
    (t : Transition G A) :
    t.unhooked.destination = t.destination :=
  rfl

/- Only hooks can tell two such transitions apart. -/
theorem fields_eq_of_unhooked_eq
    {t t' : Transition G A}
    (hSame : t.unhooked = t'.unhooked) :
    t.label = t'.label ∧ t.source = t'.source ∧
      t.destination = t'.destination := by
  simpa [unhooked] using hSame

end Transition

namespace State

variable {G A : Type}

/- A state with its own hooks and those of its transitions
  cleared. -/
def unhooked
    (s : State G A) : State G A where
  label := s.label
  transitions := s.transitions.map Transition.unhooked
  entry := none
  exit := none

@[simp]
theorem unhooked_label
    (s : State G A) :
    s.unhooked.label = s.label :=
  rfl

theorem label_eq_of_unhooked_eq
    {s s' : State G A}
    (hSame : s.unhooked = s'.unhooked) :
    s.label = s'.label := by
  rw [← unhooked_label, hSame, unhooked_label]

@[simp]
theorem transition?_unhooked
    (s : State G A)
    (label : String) :
    s.unhooked.transition? label =
      (s.transition? label).map Transition.unhooked :=
  LabelMap.get?_map _ _ _

@[simp]
theorem transitionLabels_unhooked
    (s : State G A) :
    s.unhooked.transitionLabels = s.transitionLabels :=
  LabelMap.keys_map _ _

/- A change of transitions that keeps their topology. -/
theorem unhooked_modify
    (s : State G A)
    (label : String)
    {f : Transition G A → Transition G A}
    (hKeeps : ∀ t, (f t).unhooked = t.unhooked) :
    State.unhooked
        { s with
          transitions := s.transitions.modify label f } =
      s.unhooked := by
  simp only [unhooked]
  rw [LabelMap.map_modify _ _ hKeeps]

@[simp]
theorem outline_unhooked
    (s : State G A) :
    s.unhooked.outline = s.outline := by
  simp [outline]

end State

namespace Chart

variable {G A : Type}

/- A chart with all of its hooks cleared. -/
def unhooked
    (c : Chart G A) : Chart G A where
  states := c.states.map State.unhooked
  initial := c.initial

/-
  Two charts have the same topology if they differ in their
  hooks at most.
-/
def SameTopology
    (c d : Chart G A) : Prop :=
  c.unhooked = d.unhooked

------------------------------------------------------------
-- Lookups
------------------------------------------------------------

@[simp]
theorem unhooked_initial
    (c : Chart G A) :
    c.unhooked.initial = c.initial :=
  rfl

@[simp]
theorem state?_unhooked
    (c : Chart G A)
    (label : String) :
    c.unhooked.state? label =
      (c.state? label).map State.unhooked :=
  LabelMap.get?_map _ _ _

@[simp]
theorem hasState_unhooked
    (c : Chart G A)
    (label : String) :
    c.unhooked.hasState label = c.hasState label := by
  simp [hasState, LabelMap.contains, unhooked,
    LabelMap.get?_map]

@[simp]
theorem transition?_unhooked
    (c : Chart G A)
    (state label : String) :
    c.unhooked.transition? state label =
      (c.transition? state label).map
        Transition.unhooked := by
  unfold transition?
  rw [state?_unhooked]
  cases c.state? state with
  | none => rfl
  | some s => simp

@[simp]
theorem initialState?_unhooked
    (c : Chart G A) :
    c.unhooked.initialState? =
      c.initialState?.map State.unhooked := by
  unfold initialState?
  rw [unhooked_initial]
  cases c.initial with
  | none => rfl
  | some label => simp

------------------------------------------------------------
-- Edits
------------------------------------------------------------

/- A change of states that keeps their topology. -/
theorem unhooked_modifyState
    (c : Chart G A)
    (state : String)
    {f : State G A → State G A}
    (hKeeps : ∀ s, (f s).unhooked = s.unhooked) :
    (c.modifyState state f).unhooked = c.unhooked := by
  simp only [unhooked, modifyState]
  rw [LabelMap.map_modify _ _ hKeeps]

theorem unhooked_modifyTransition
    (c : Chart G A)
    (state label : String)
    {f : Transition G A → Transition G A}
    (hKeeps : ∀ t, (f t).unhooked = t.unhooked) :
    (c.modifyTransition state label f).unhooked =
      c.unhooked := by
  apply unhooked_modifyState
  intro s
  exact s.unhooked_modify label hKeeps

/- Setting or clearing a hook keeps the topology. -/
@[simp]
theorem unhooked_edit
    (c : Chart G A)
    (e : HookEdit G A) :
    (c.edit e).unhooked = c.unhooked := by
  cases e with
  | entry state hook =>
      exact c.unhooked_modifyState state fun _ => rfl
  | exit state hook =>
      exact c.unhooked_modifyState state fun _ => rfl
  | gate state label hook =>
      exact c.unhooked_modifyTransition state label
        fun _ => rfl
  | action state label hook =>
      exact c.unhooked_modifyTransition state label
        fun _ => rfl

@[simp]
theorem unhooked_editAll
    (c : Chart G A)
    (edits : List (HookEdit G A)) :
    (c.editAll edits).unhooked = c.unhooked := by
  unfold editAll
  induction edits generalizing c with
  | nil => rfl
  | cons e rest ih =>
      rw [List.foldl_cons, ih, unhooked_edit]

------------------------------------------------------------
-- Views
------------------------------------------------------------

theorem stateList_unhooked
    (c : Chart G A) :
    c.unhooked.stateList =
      c.stateList.map State.unhooked :=
  LabelMap.values_map _ _

theorem edges_unhooked
    (c : Chart G A) :
    c.unhooked.edges =
      c.edges.map fun e =>
        (e.1.unhooked, e.2.unhooked) := by
  simp [edges, stateList_unhooked, List.flatMap_map,
    List.map_flatMap, State.unhooked, Function.comp_def]

theorem rules_unhooked
    (c : Chart G A) :
    c.unhooked.rules = c.rules := by
  simp [rules, edges_unhooked, Function.comp_def]

theorem ruleText_unhooked
    (c : Chart G A) :
    c.unhooked.ruleText = c.ruleText := by
  simp only [ruleText, ruleLines, rules_unhooked]

theorem validate_unhooked
    (c : Chart G A) :
    c.unhooked.validate = c.validate := by
  unfold validate firstDangling?
  rw [edges_unhooked, List.find?_map]
  simp only [Function.comp_def, hasState_unhooked,
    Transition.unhooked_destination]
  cases c.edges.find? _ with
  | none => rfl
  | some e => rfl

theorem outline_unhooked
    (c : Chart G A) :
    c.unhooked.outline = c.outline := by
  simp [outline, unhooked, LabelMap.map]

theorem drawStart_unhooked
    (c : Chart G A)
    {draw : State G A → Dot.Statement}
    (hDraw : ∀ s, draw s.unhooked = draw s) :
    c.unhooked.drawStart draw = c.drawStart draw := by
  unfold drawStart
  rw [initialState?_unhooked]
  cases c.initialState? with
  | none => rfl
  | some s => simp [hDraw]

theorem dot_unhooked
    (c : Chart G A)
    (options : Dot.Options) :
    c.unhooked.dot options = c.dot options := by
  have hNodes :
      c.unhooked.stateList.map (drawNode options) =
        c.stateList.map (drawNode options) := by
    rw [stateList_unhooked, List.map_map]
    rfl
  have hEdges :
      c.unhooked.edges.map drawEdge =
        c.edges.map drawEdge := by
    rw [edges_unhooked, List.map_map]
    rfl
  unfold dot drawing
  rw [hNodes, hEdges, c.drawStart_unhooked fun _ => rfl,
    c.drawStart_unhooked fun _ => rfl]

theorem grid_unhooked
    (c : Chart G A) :
    c.unhooked.grid = c.grid := by
  have hLabels : c.unhooked.labels = c.labels := by
    simp [labels, stateList_unhooked, List.flatMap_map]
  have hRow :
      c.unhooked.gridRow = c.gridRow := by
    funext label
    simp [gridRow, stateList_unhooked, Function.comp_def]
  unfold grid
  rw [hLabels, hRow, stateList_unhooked, List.map_map]
  rfl

------------------------------------------------------------
-- Charts of the Same Topology
------------------------------------------------------------

namespace SameTopology

variable {c d e : Chart G A}

theorem symm
    (hSame : c.SameTopology d) :
    d.SameTopology c :=
  Eq.symm hSame

theorem trans
    (hFirst : c.SameTopology d)
    (hSecond : d.SameTopology e) :
    c.SameTopology e :=
  Eq.trans hFirst hSecond

theorem initial_eq
    (hSame : c.SameTopology d) :
    c.initial = d.initial := by
  rw [← unhooked_initial, hSame, unhooked_initial]

theorem hasState_eq
    (hSame : c.SameTopology d)
    (label : String) :
    c.hasState label = d.hasState label := by
  rw [← hasState_unhooked, hSame, hasState_unhooked]

/- The transitions of both charts agree but for hooks. -/
theorem transition?_eq
    (hSame : c.SameTopology d)
    (state label : String) :
    (c.transition? state label).map Transition.unhooked =
      (d.transition? state label).map
        Transition.unhooked := by
  rw [← transition?_unhooked, hSame, transition?_unhooked]

/- A transition of one chart is one of the other as well. -/
theorem exists_transition?
    (hSame : c.SameTopology d)
    {state label : String}
    {t : Transition G A}
    (hFound : c.transition? state label = some t) :
    ∃ t', d.transition? state label = some t' ∧
      t'.unhooked = t.unhooked := by
  have hEq := hSame.transition?_eq state label
  rw [hFound] at hEq
  exact Option.map_eq_some_iff.mp hEq.symm

theorem ruleText_eq
    (hSame : c.SameTopology d) :
    c.ruleText = d.ruleText := by
  rw [← ruleText_unhooked, hSame, ruleText_unhooked]

theorem validate_eq
    (hSame : c.SameTopology d) :
    c.validate = d.validate := by
  rw [← validate_unhooked, hSame, validate_unhooked]

theorem outline_eq
    (hSame : c.SameTopology d) :
    c.outline = d.outline := by
  rw [← outline_unhooked, hSame, outline_unhooked]

theorem dot_eq
    (hSame : c.SameTopology d)
    (options : Dot.Options) :
    c.dot options = d.dot options := by
  rw [← dot_unhooked, hSame, dot_unhooked]

theorem grid_eq
    (hSame : c.SameTopology d) :
    c.grid = d.grid := by
  rw [← grid_unhooked, hSame, grid_unhooked]

end SameTopology

end Chart

end Statechart
