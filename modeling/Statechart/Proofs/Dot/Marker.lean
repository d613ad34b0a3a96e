import Statechart.Proofs.Dot.Drawing
import Statechart.Proofs.Dot.Reader

/-
  This file states what dot reads off the drawing of a
  chart, and when the start node is a node of its own. Its
  bare name is the name of a state like any other, so it is
  kept apart by the labels of the chart and not by the
  missing quotation marks.

  Key definitions include:
    * `Dot.Picture.SetsApart`
    * `Chart.picture`

  Key theorems include:
    * `Dot.Picture.setsApart_iff`
    * `Chart.WellFormed.read?_dot`
    * `Chart.WellFormed.setsApart_picture_iff`
    * `Chart.dot_start_marker`
    * `Chart.dot_start_marker_collides`
-/

namespace Statechart

------------------------------------------------------------
-- Markers
------------------------------------------------------------

namespace Dot.Picture

/-
  The marker of a state is set apart if it is declared once,
  its only outgoing edge leads to the state, and it has no
  incoming edge.
-/
structure SetsApart
    (p : Picture)
    (marker first : String) : Prop where
  declared : p.nodes.count marker = 1
  leaving :
    p.edges.filter (·.1 == marker) = [(marker, first)]
  entering : ∀ e ∈ p.edges, e.2 ≠ marker

/- A marker is set apart if nothing else has its name. -/
theorem setsApart_iff
    {marker first : String}
    {nodes : List String}
    {edges : List (String × String)} :
    SetsApart
        ⟨marker :: nodes, (marker, first) :: edges⟩
        marker first ↔
      (marker ∉ nodes ∧ first ≠ marker) ∧
        ∀ e ∈ edges, e.1 ≠ marker ∧ e.2 ≠ marker := by
  have hDeclared :
      (marker :: nodes).count marker = 1 ↔
        marker ∉ nodes := by
    rw [List.count_cons_self, Nat.add_eq_right,
      List.count_eq_zero]
  have hLeaving :
      ((marker, first) :: edges).filter (·.1 == marker) =
          [(marker, first)] ↔
        ∀ e ∈ edges, e.1 ≠ marker := by
    simp
  constructor
  · rintro ⟨hNodes, hEdges, hEntering⟩
    rw [hDeclared] at hNodes
    rw [hLeaving] at hEdges
    rw [List.forall_mem_cons] at hEntering
    exact
      ⟨⟨hNodes, hEntering.1⟩, fun e hMember =>
        ⟨hEdges e hMember, hEntering.2 e hMember⟩⟩
  · rintro ⟨⟨hNodes, hFirst⟩, hEdges⟩
    refine
      ⟨hDeclared.mpr hNodes,
        hLeaving.mpr fun e hMember => (hEdges e hMember).1,
        ?_⟩
    rw [List.forall_mem_cons]
    exact ⟨hFirst, fun e hMember => (hEdges e hMember).2⟩

end Dot.Picture

------------------------------------------------------------
-- Reading Drawings
------------------------------------------------------------

namespace Chart

variable {G A : Type}
variable {c : Chart G A}

/-
  What the drawing of a chart shows, whatever the options
  are: the start node and the states, the edge of the start
  node and those of the rules.
-/
def picture (c : Chart G A) : Dot.Picture where
  nodes :=
    c.initial.toList.map (fun _ => Dot.startNode) ++
      c.states.keys
  edges :=
    c.initial.toList.map (fun first =>
        (Dot.startNode, first)) ++
      c.rules.map fun r => (r.source, r.destination)

theorem ofStatements_sketch
    (c : Chart G A)
    (options : Dot.Options) :
    Dot.Picture.ofStatements (c.sketch options).statements =
      c.picture := by
  simp only [Dot.Picture.ofStatements, picture, sketch,
    Dot.Sketch.statements, List.filterMap_append,
    List.filterMap_map, Function.comp_def,
    Dot.Picture.mk.injEq]
  constructor
  · simp [Dot.Statement.declares?, List.filterMap_none]
  · simp [Dot.Statement.joins?, List.filterMap_none]

namespace WellFormed

/- The drawing of a chart is read as its picture. -/
theorem read?_dot
    (hWell : c.WellFormed)
    (options : Dot.Options) :
    Dot.Picture.read? (c.dot options) = some c.picture := by
  unfold dot
  rw [hWell.drawing_eq, Dot.Picture.read?_document,
    ofStatements_sketch]

/-
  A marker is set apart if it is no state and no transition
  leads to it. The sources of the transitions, and the
  initial label, are states.
-/
theorem setsApart_picture_iff
    (hWell : c.WellFormed)
    {first : String}
    (hInitial : c.initial = some first) :
    c.picture.SetsApart Dot.startNode first ↔
      c.hasState Dot.startNode = false ∧
        ∀ state label t,
          c.transition? state label = some t →
            t.destination ≠ Dot.startNode := by
  have hPicture :
      c.picture =
        ⟨Dot.startNode :: c.states.keys,
          (Dot.startNode, first) ::
            c.rules.map fun r => (r.source, r.destination)⟩ := by
    unfold picture
    rw [hInitial]
    rfl
  rw [hPicture, Dot.Picture.setsApart_iff,
    c.states.mem_keys_iff, List.forall_mem_map]
  constructor
  · rintro ⟨⟨hNodes, _⟩, hEdges⟩
    refine ⟨Bool.eq_false_iff.mpr hNodes, ?_⟩
    intro state label t hFound
    have hRule : ⟨state, t.destination, label⟩ ∈ c.rules :=
      hWell.mem_rules_iff.mpr ⟨t, hFound, rfl⟩
    exact (hEdges _ hRule).2
  · rintro ⟨hState, hDestinations⟩
    have hNodes : c.hasState Dot.startNode ≠ true :=
      Bool.eq_false_iff.mp hState
    refine ⟨⟨hNodes, ?_⟩, ?_⟩
    · intro hEq
      exact hNodes (hEq ▸ hWell.registered hInitial)
    · intro r hRule
      rcases hWell.mem_rules_iff.mp hRule with
        ⟨t, hFound, hDestination⟩
      constructor
      · intro hEq
        exact hNodes (hEq ▸ hasState_of_transition? hFound)
      · rw [← hDestination]
        exact hDestinations _ _ t hFound

/- In a closed chart, transitions lead to states only. -/
theorem setsApart_picture_iff_of_closed
    (hWell : c.WellFormed)
    (hClosed : c.Closed)
    {first : String}
    (hInitial : c.initial = some first) :
    c.picture.SetsApart Dot.startNode first ↔
      c.hasState Dot.startNode = false := by
  rw [hWell.setsApart_picture_iff hInitial]
  apply and_iff_left_of_imp
  intro hState label name t hFound hEq
  have hDestination := hClosed label name t hFound
  rw [hEq, hState] at hDestination
  exact Bool.false_ne_true hDestination

end WellFormed

/-
  Read as dot does, the drawing of a chart with an initial
  state declares the start node and each state once, and it
  has an edge from the start node to the initial state and
  one for each transition. The start node is set apart from
  the states if and only if no state is labelled like it and
  no transition leads to that label, which in a closed chart
  is said by the states alone.
-/
theorem dot_start_marker
    {first : String}
    (hBuilt : c.Built)
    (hInitial : c.initial = some first)
    (options : Dot.Options) :
    ∃ p : Dot.Picture,
      Dot.Picture.read? (c.dot options) = some p ∧
        p.nodes = Dot.startNode :: c.states.keys ∧
        p.edges =
          (Dot.startNode, first) ::
            c.rules.map (fun r => (r.source, r.destination)) ∧
        (p.SetsApart Dot.startNode first ↔
          c.hasState Dot.startNode = false ∧
            ∀ state label t,
              c.transition? state label = some t →
                t.destination ≠ Dot.startNode) ∧
        (c.Closed →
          (p.SetsApart Dot.startNode first ↔
            c.hasState Dot.startNode = false)) := by
  have hWell := hBuilt.wellFormed
  refine
    ⟨c.picture, hWell.read?_dot options, ?_, ?_,
      hWell.setsApart_picture_iff hInitial, fun hClosed =>
        hWell.setsApart_picture_iff_of_closed hClosed
          hInitial⟩
  · unfold picture
    rw [hInitial]
    rfl
  · unfold picture
    rw [hInitial]
    rfl

/-
  A state with the name of the start node in quotation marks
  of its own.
-/
def quotedStart : Chart Unit Unit :=
  Chart.empty.connect "start" "\"__start\"" "go"

/- The start node is set apart from both states. -/
theorem dot_start_marker_quoted :
    quotedStart.Built ∧
      ∃ p : Dot.Picture,
        Dot.Picture.read?
            (quotedStart.dot
              ⟨some .leftToRight, some "start"⟩) =
          some p ∧
          p.SetsApart Dot.startNode "start" := by
  have hBuilt : quotedStart.Built :=
    Built.empty.connect "start" "\"__start\"" "go"
  have hClosed : quotedStart.Closed :=
    quotedStart.validate_eq_ok_iff.mp rfl
  rcases
      dot_start_marker hBuilt rfl
        ⟨some .leftToRight, some "start"⟩ with
    ⟨p, hRead, _, _, _, hApart⟩
  exact ⟨hBuilt, p, hRead, (hApart hClosed).mpr rfl⟩

/-
  A rule may name the start node. It is then declared twice,
  and one of its edges leads back to it.
-/
theorem dot_start_marker_collides :
    ∃ c : Chart Unit Unit,
      ofRules "__start -> a (go)" = .ok c ∧
        ∃ p : Dot.Picture,
          Dot.Picture.read? (c.dot .plain) = some p ∧
            c.initial = some "__start" ∧
            p.nodes = ["__start", "__start", "a"] ∧
            p.edges =
              [("__start", "__start"), ("__start", "a")] ∧
            ¬ p.SetsApart Dot.startNode "__start" := by
  have hWell :
      (Chart.empty.connect "__start" "a" "go" :
        Chart Unit Unit).WellFormed :=
    (Built.empty.connect "__start" "a" "go").wellFormed
  refine
    ⟨Chart.empty.connect "__start" "a" "go", rfl, _,
      hWell.read?_dot .plain, rfl, rfl, rfl, ?_⟩
  intro hApart
  exact absurd hApart.declared (by decide)

end Chart

end Statechart
