import Mathlib.Data.List.Basic
import Statechart.Proofs.Dot.Document
import Statechart.Proofs.Machine.Fleet
import Statechart.Proofs.Rule.Writing

/-
  This file states what can be told from the dot document of
  a chart: its topology, the direction of the drawing and
  the state that is highlighted, and nothing else. No labels
  make the documents of two charts equal that differ in one
  of these.

  A drawing is made from a sketch, which holds nothing but
  what is drawn, and every sketch can be read off its
  statements.

  Key definitions include:
    * `Dot.Sketch`
    * `Dot.Sketch.statements`
    * `Dot.Sketch.read`
    * `Chart.sketch`
    * `Chart.highlighted?`

  Key theorems include:
    * `Dot.Sketch.read_statements`
    * `Chart.WellFormed.drawing_eq`
    * `Chart.WellFormed.rules_eq_iff`
    * `Chart.WellFormed.dot_eq_iff`
    * `Chart.dot_shows_topology`
-/

namespace Statechart

namespace Dot

------------------------------------------------------------
-- Reading Statements
------------------------------------------------------------

namespace Statement

/- The direction that a statement fixes. -/
def direction? : Statement → Option Direction
  | direction d => some d
  | _ => none

/- The initial state that a statement points at. -/
def start? : Statement → Option String
  | startEdge state => some state
  | _ => none

/- The state that a statement draws, and its mark. -/
def node? : Statement → Option (String × Bool)
  | node state highlighted => some (state, highlighted)
  | _ => none

/- The rule that a statement draws. -/
def rule? : Statement → Option Rule
  | edge source destination label =>
      some ⟨source, destination, label⟩
  | _ => none

end Statement

------------------------------------------------------------
-- Sketches
------------------------------------------------------------

/-
  A sketch consists of a direction, an initial state, the
  states with their marks, and the rules.
-/
structure Sketch where
  direction : Option Direction
  start : Option String
  nodes : List (String × Bool)
  rules : List Rule
deriving DecidableEq, Repr

namespace Sketch

/- The statements that draw a sketch. -/
def statements (s : Sketch) : List Statement :=
  s.direction.toList.map .direction ++
    [.nodeDefaults] ++
    s.start.toList.map (fun _ => .startMarker) ++
    s.nodes.map (fun n => .node n.1 n.2) ++
    s.start.toList.map .startEdge ++
    s.rules.map fun r => .edge r.source r.destination r.label

/- Read a sketch off its statements. -/
def read (list : List Statement) : Sketch where
  direction := (list.filterMap Statement.direction?).head?
  start := (list.filterMap Statement.start?).head?
  nodes := list.filterMap Statement.node?
  rules := list.filterMap Statement.rule?

/- Statements of one kind are found among the others. -/
theorem read_statements
    (s : Sketch) :
    read s.statements = s := by
  obtain ⟨direction, start, nodes, rules⟩ := s
  simp only [read, statements, List.filterMap_append,
    List.filterMap_map, Function.comp_def, Sketch.mk.injEq]
  refine ⟨?_, ?_, ?_, ?_⟩
  · cases direction <;>
      simp [Statement.direction?, List.filterMap_none]
  · cases start <;>
      simp [Statement.start?, List.filterMap_none]
  · simp [Statement.node?, List.filterMap_none]
  · simp [Statement.rule?, List.filterMap_none]

/- No two sketches are drawn alike. -/
theorem statements_injective
    {s s' : Sketch}
    (hEq : s.statements = s'.statements) :
    s = s' := by
  rw [← read_statements s, hEq, read_statements]

end Sketch

end Dot

------------------------------------------------------------
-- Sketches of Charts
------------------------------------------------------------

/- The order in which the rules of a chart are listed. -/
def Rule.Before (r r' : Rule) : Prop :=
  r.source < r'.source ∨
    r.source = r'.source ∧ r.label < r'.label

theorem Rule.Before.asymm
    {r r' : Rule}
    (hBefore : r.Before r') :
    ¬ r'.Before r := by
  rintro (hLess' | ⟨hSource', hLess'⟩)
  · rcases hBefore with hLess | ⟨hSource, _⟩
    · exact String.lt_asymm hLess hLess'
    · exact String.lt_irrefl _ (hSource ▸ hLess')
  · rcases hBefore with hLess | ⟨_, hLess⟩
    · exact String.lt_irrefl _ (hSource' ▸ hLess)
    · exact String.lt_asymm hLess hLess'

namespace Chart

variable {G A : Type}
variable {c d : Chart G A}

/- What is drawn of a chart with the given options. -/
def sketch
    (c : Chart G A)
    (options : Dot.Options) : Dot.Sketch where
  direction := options.direction
  start := c.initial
  nodes :=
    c.states.keys.map fun label =>
      (label, options.highlight == some label)
  rules := c.rules

/- The registered state that the options highlight. -/
def highlighted?
    (c : Chart G A)
    (options : Dot.Options) : Option String :=
  options.highlight.filter c.hasState

theorem highlighted?_eq_some_iff
    (c : Chart G A)
    {options : Dot.Options}
    {label : String} :
    c.highlighted? options = some label ↔
      c.hasState label = true ∧
        options.highlight = some label := by
  unfold highlighted?
  rw [Option.filter_eq_some_iff]
  exact and_comm

namespace WellFormed

/- A well-formed chart is drawn from its sketch. -/
theorem drawing_eq
    (hWell : c.WellFormed)
    (options : Dot.Options) :
    c.drawing options = (c.sketch options).statements := by
  have hNodes :
      c.stateList.map (drawNode options) =
        (c.sketch options).nodes.map
          fun n => .node n.1 n.2 := by
    simp only [sketch, ← hWell.stateList_labels,
      List.map_map]
    rfl
  have hEdges :
      c.edges.map drawEdge =
        c.rules.map fun r =>
          .edge r.source r.destination r.label := by
    simp only [rules, List.map_map]
    rfl
  have hStart :
      ∀ draw : String → Dot.Statement,
        c.drawStart (fun s => draw s.label) =
          c.initial.toList.map draw := by
    intro draw
    rw [← hWell.map_label_initialState?]
    unfold drawStart
    cases c.initialState? <;> rfl
  unfold drawing Dot.Sketch.statements
  rw [hNodes, hEdges, hStart .startEdge,
    hStart fun _ => .startMarker]
  rfl

/- The marks show the states and the highlighted one. -/
theorem nodes_eq_iff
    {options options' : Dot.Options} :
    (c.sketch options).nodes = (d.sketch options').nodes ↔
      (∀ state, c.hasState state = d.hasState state) ∧
        c.highlighted? options =
          d.highlighted? options' := by
  have hKeys :
      c.states.keys = d.states.keys ↔
        ∀ state, c.hasState state = d.hasState state :=
    LabelMap.keys_eq_iff
  constructor
  · intro hNodes
    have hSame : c.states.keys = d.states.keys := by
      have hLabels := congrArg (List.map Prod.fst) hNodes
      simpa [sketch, Function.comp_def] using hLabels
    have hStates := hKeys.mp hSame
    refine ⟨hStates, ?_⟩
    simp only [sketch, hSame, List.map_inj_left,
      Prod.mk.injEq, true_and] at hNodes
    apply Option.ext
    intro label
    rw [highlighted?_eq_some_iff, highlighted?_eq_some_iff,
      hStates]
    apply and_congr_right
    intro hState
    have hMark :=
      hNodes label (d.states.mem_keys_iff.mpr hState)
    rwa [Bool.eq_iff_iff, beq_iff_eq, beq_iff_eq] at hMark
  · rintro ⟨hStates, hMarks⟩
    simp only [sketch, hKeys.mpr hStates, List.map_inj_left,
      Prod.mk.injEq, true_and]
    intro label hMember
    have hState : d.hasState label = true :=
      d.states.mem_keys_iff.mp hMember
    have hMark :=
      congrArg (fun mark => mark = some label) hMarks
    simp only [highlighted?_eq_some_iff, hStates, hState,
      true_and] at hMark
    rw [Bool.eq_iff_iff, beq_iff_eq, beq_iff_eq]
    exact hMark.to_iff

/- Rules are listed in ascending order. -/
theorem rules_ascending
    (hWell : c.WellFormed) :
    c.rules.Pairwise Rule.Before :=
  List.pairwise_map.mpr hWell.edges_ascending

/- The rules show where each transition leads to. -/
theorem rules_eq_iff
    (hLeft : c.WellFormed)
    (hRight : d.WellFormed) :
    c.rules = d.rules ↔
      ∀ state label,
        (c.transition? state label).map
            Transition.destination =
          (d.transition? state label).map
            Transition.destination := by
  have hMember :
      ∀ {e : Chart G A},
        e.WellFormed →
          ∀ r : Rule,
            r ∈ e.rules ↔
              (e.transition? r.source r.label).map
                  Transition.destination =
                some r.destination := by
    intro e hWell r
    rw [hWell.mem_rules_iff, Option.map_eq_some_iff]
  constructor
  · intro hRules state label
    apply Option.ext
    intro destination
    have hLeft' := hMember hLeft ⟨state, destination, label⟩
    rw [hRules, hMember hRight] at hLeft'
    exact hLeft'.symm
  · intro hDestinations
    apply ascending_ext Rule.Before.asymm
      hLeft.rules_ascending hRight.rules_ascending
    intro r
    rw [hMember hLeft, hMember hRight, hDestinations]

/-
  The documents of two well-formed charts are equal if and
  only if they show the same topology, direction and mark.
-/
theorem dot_eq_iff
    (hLeft : c.WellFormed)
    (hRight : d.WellFormed)
    {options options' : Dot.Options} :
    c.dot options = d.dot options' ↔
      (∀ state, c.hasState state = d.hasState state) ∧
        (∀ state label,
          (c.transition? state label).map
              Transition.destination =
            (d.transition? state label).map
              Transition.destination) ∧
        c.initial = d.initial ∧
        options.direction = options'.direction ∧
        c.highlighted? options =
          d.highlighted? options' := by
  have hSketch :
      c.dot options = d.dot options' ↔
        c.sketch options = d.sketch options' := by
    unfold dot
    rw [hLeft.drawing_eq, hRight.drawing_eq]
    constructor
    · intro hEq
      exact
        Dot.Sketch.statements_injective
          (Dot.document_injective hEq)
    · intro hEq
      rw [hEq]
  rw [hSketch, Dot.Sketch.mk.injEq, nodes_eq_iff,
    ← hLeft.rules_eq_iff hRight]
  constructor
  · rintro ⟨hDirection, hInitial, ⟨hStates, hMarks⟩, hRules⟩
    exact ⟨hStates, hRules, hInitial, hDirection, hMarks⟩
  · rintro ⟨hStates, hRules, hInitial, hDirection, hMarks⟩
    exact ⟨hDirection, hInitial, ⟨hStates, hMarks⟩, hRules⟩

end WellFormed

end Chart

------------------------------------------------------------
-- Drawings of Machines
------------------------------------------------------------

/-
  Machines that walk charts of one topology are drawn alike
  if and only if they are in the same state.
-/
theorem Machine.Walks.dot_eq_iff
    {G A : Type}
    {c d : Chart G A}
    {m m' : Machine}
    (hWalks : m.Walks c)
    (hWalks' : m'.Walks d)
    (hWell : c.WellFormed)
    (hSame : d.SameTopology c) :
    m.dot c = m'.dot d ↔ m.current = m'.current := by
  have hMark :
      ∀ {n : Machine},
        n.Walks c →
          c.highlighted? ⟨none, some n.current⟩ =
            some n.current := by
    intro n hWalks
    exact
      c.highlighted?_eq_some_iff.mpr
        ⟨hWalks.registered, rfl⟩
  unfold dot
  rw [hSame.dot_eq, hWell.dot_eq_iff hWell, hMark hWalks,
    hMark (hWalks'.of_sameTopology hSame.symm)]
  simp

/-
  Dot documents cannot be forged by labels. The documents of
  two charts are equal if and only if the charts have the
  same states, the same transitions with the same
  destinations and the same initial label, and the options
  fix the same direction and highlight the same registered
  state, or none. The drawings that machines of one chart
  make of it, at whatever times of whatever runs, are equal
  if and only if the machines are in the same state.
-/
theorem Chart.dot_shows_topology
    {G A W : Type}
    {c d : Chart G A}
    (hLeft : c.Built)
    (hRight : d.Built)
    (options options' : Dot.Options)
    (host host' : Host G A W)
    (world world' : W)
    (commands commands' : List (Fleet.Command G A W)) :
    (c.dot options = d.dot options' ↔
        (∀ state, c.hasState state = d.hasState state) ∧
          (∀ state label,
            (c.transition? state label).map
                Transition.destination =
              (d.transition? state label).map
                Transition.destination) ∧
          c.initial = d.initial ∧
          options.direction = options'.direction ∧
          c.highlighted? options =
            d.highlighted? options') ∧
      let fleet := (Fleet.launch c world).run host commands
      let fleet' :=
        (Fleet.launch c world').run host' commands'
      ∀ m ∈ fleet.machines,
        ∀ m' ∈ fleet'.machines,
          m.dot fleet.scene.chart =
              m'.dot fleet'.scene.chart ↔
            m.current = m'.current := by
  have hWell := hLeft.wellFormed
  refine ⟨hWell.dot_eq_iff hRight.wellFormed, ?_⟩
  intro fleet fleet' m hMember m' hMember'
  have hSound : fleet.Sound c :=
    Fleet.run_sound hWell host world commands
  have hSound' : fleet'.Sound c :=
    Fleet.run_sound hWell host' world' commands'
  exact
    (hSound.walks hMember).dot_eq_iff
      (hSound'.walks hMember')
      (hWell.of_sameTopology hSound.topology)
      (hSound'.topology.trans hSound.topology.symm)

/-
  Two states and one transition, and a single state whose
  label holds the statement of another one.
-/
def honest : ScriptedChart :=
  Chart.empty.connect "a" "b" "go"

def forged : ScriptedChart :=
  Chart.empty.ensureState "a\" [label=\"a\"]\n\t\"b"

/- Two machines are bound, and one of them moves. -/
def honestCommands :
    List (Fleet.Command Condition Script Variables) :=
  [ .bind .standard, .bind .standard,
    .tell 0 (.perform "go") ]

/-
  The drawings of the two charts differ, and so do those of
  the two machines.
-/
theorem Chart.dot_shows_topology_forged :
    honest.Built ∧ forged.Built ∧
      honest.dot .plain ≠ forged.dot .plain ∧
      let fleet :=
        (Fleet.launch honest LabelMap.empty).run scriptHost
          honestCommands
      ∃ m ∈ fleet.machines,
        ∃ m' ∈ fleet.machines,
          m.dot fleet.scene.chart ≠
            m'.dot fleet.scene.chart := by
  have hHonest : honest.Built :=
    Chart.Built.empty.connect "a" "b" "go"
  have hForged : forged.Built :=
    Chart.Built.empty.ensureState _
  rcases
      Chart.dot_shows_topology hHonest hForged .plain .plain
        scriptHost scriptHost LabelMap.empty LabelMap.empty
        honestCommands honestCommands with
    ⟨hCharts, hMachines⟩
  refine ⟨hHonest, hForged, ?_, ?_⟩
  · intro hEq
    have hState := (hCharts.mp hEq).1 "b"
    revert hState
    decide
  · have hFirst :
        ((Fleet.launch honest LabelMap.empty).run scriptHost
          honestCommands).machines[0]?.map
            Machine.current = some "b" := by
      rfl
    have hSecond :
        ((Fleet.launch honest LabelMap.empty).run scriptHost
          honestCommands).machines[1]?.map
            Machine.current = some "a" := by
      rfl
    rcases Option.map_eq_some_iff.mp hFirst with
      ⟨m, hFound, hCurrent⟩
    rcases Option.map_eq_some_iff.mp hSecond with
      ⟨m', hFound', hCurrent'⟩
    have hMember := List.mem_of_getElem? hFound
    have hMember' := List.mem_of_getElem? hFound'
    refine ⟨m, hMember, m', hMember', ?_⟩
    intro hEq
    have hSame := (hMachines m hMember m' hMember').mp hEq
    rw [hCurrent, hCurrent'] at hSame
    revert hSame
    decide

end Statechart
