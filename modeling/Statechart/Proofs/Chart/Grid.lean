import Statechart.Proofs.Chart.Edges
import Statechart.Proofs.Text.Bytes

/-
  This file states that the grid of a chart shows its
  transitions: looking a destination up by position in the
  grid is looking the transition up in the chart.

  A grid can be walked without the chart. From a state, a
  label leads to what the cell holds, or nowhere else if the
  cell is empty.

  Nothing but states and destinations is shown, so charts
  that agree on these have the same grid, and no others.

  Key definitions include:
    * `Grid.advance`
    * `Grid.leaving`

  Key theorems include:
    * `Chart.mem_labels_iff`
    * `Chart.WellFormed.destination?_grid`
    * `Chart.WellFormed.leaving_grid`
    * `Chart.WellFormed.cells_gridRow`
    * `Chart.WellFormed.grid_eq_iff`
    * `Chart.grid_shows_transitions`
-/

namespace Statechart

------------------------------------------------------------
-- Walking a Grid
------------------------------------------------------------

namespace Grid

/- Where a label leads from a state, if it leads anywhere. -/
def advance
    (g : Grid)
    (state label : String) : String :=
  (g.destination? state label).getD state

/- The cell of a row in the column of a state. -/
def cell?
    (g : Grid)
    (state : String)
    (row : GridRow) : Option String :=
  match g.column? state with
  | none => none
  | some i => (row.cells[i]?).join

/- The labels of the rows with a cell for a state. -/
def leaving
    (g : Grid)
    (state : String) : List String :=
  (g.rows.filter fun row =>
    (g.cell? state row).isSome).map (·.label)

theorem destination?_eq
    (g : Grid)
    (state label : String) :
    g.destination? state label =
      (g.row? label).bind (g.cell? state) := by
  unfold destination? cell?
  cases g.column? state <;> cases g.row? label <;> rfl

end Grid

------------------------------------------------------------
-- The Grid of a Chart
------------------------------------------------------------

namespace Chart

variable {G A : Type}
variable {c d : Chart G A}

/- Rows are listed in ascending order of their labels. -/
theorem labels_ascending
    (c : Chart G A) :
    c.labels.Pairwise (· < ·) :=
  LabelMap.keys_ascending _

/- There is a row for each label that leaves a state. -/
theorem mem_labels_iff
    (c : Chart G A)
    {label : String} :
    label ∈ c.labels ↔
      ∃ state t, c.transition? state label = some t := by
  unfold labels
  rw [LabelMap.mem_keys_ofKeys, List.mem_flatMap]
  constructor
  · rintro ⟨s, hMember, hLabel⟩
    rcases c.mem_stateList_iff.mp hMember with
      ⟨state, hState⟩
    rcases s.transitions.contains_iff.mp
        (s.transitions.mem_keys_iff.mp hLabel) with
      ⟨t, hTransition⟩
    exact
      ⟨state, t,
        c.transition?_eq_some_iff.mpr
          ⟨s, hState, hTransition⟩⟩
  · rintro ⟨state, t, hFound⟩
    rcases c.transition?_eq_some_iff.mp hFound with
      ⟨s, hState, hTransition⟩
    refine ⟨s, c.mem_stateList_iff.mpr ⟨state, hState⟩, ?_⟩
    exact
      s.transitions.mem_keys_iff.mpr
        (s.transitions.contains_iff.mpr ⟨t, hTransition⟩)

/- The row of a label holds its destinations. -/
theorem row?_grid
    (c : Chart G A)
    (label : String) :
    c.grid.row? label =
      if label ∈ c.labels then
        some (c.gridRow label)
      else
        none := by
  have hRow :
      c.grid.row? label =
        (c.labels.find? (· == label)).map c.gridRow :=
    List.find?_map
  rw [hRow]
  cases hSearch : c.labels.find? (· == label) with
  | none =>
      rw [if_neg]
      · rfl
      · intro hLabel
        exact
          List.find?_eq_none.mp hSearch label hLabel
            (beq_self_eq_true label)
  | some found =>
      have hFound := List.find?_some hSearch
      have hEq : found = label := beq_iff_eq.mp hFound
      rw [hEq] at hSearch
      rw [hEq, if_pos (List.mem_of_find?_eq_some hSearch)]
      rfl

/- The labels with a cell for a state ascend as well. -/
theorem leaving_grid_ascending
    (c : Chart G A)
    (state : String) :
    (c.grid.leaving state).Pairwise (· < ·) := by
  have hRows :
      c.grid.rows.Pairwise fun x y => x.label < y.label :=
    List.pairwise_map.mpr c.labels_ascending
  exact List.pairwise_map.mpr (hRows.filter _)

/- Destinations show which labels leave some state. -/
theorem labels_eq_of_destinations
    (hDestinations :
      ∀ state label,
        (c.transition? state label).map
            Transition.destination =
          (d.transition? state label).map
            Transition.destination) :
    c.labels = d.labels := by
  apply ascending_ext String.lt_asymm c.labels_ascending
    d.labels_ascending
  intro label
  rw [c.mem_labels_iff, d.mem_labels_iff]
  apply exists_congr
  intro state
  have hSome :=
    congrArg Option.isSome (hDestinations state label)
  rw [Option.isSome_map, Option.isSome_map] at hSome
  rw [← Option.isSome_iff_exists, ← Option.isSome_iff_exists,
    hSome]

namespace WellFormed

/- The list of states is searched by label. -/
theorem find?_stateList
    (hWell : c.WellFormed)
    (state : String) :
    c.stateList.find? (·.label == state) =
      c.state? state := by
  cases hFound : c.state? state with
  | none =>
      apply List.find?_eq_none.mpr
      intro s hMember hLabel
      have hState := hWell.mem_stateList_iff_label.mp hMember
      rw [beq_iff_eq.mp hLabel, hFound] at hState
      cases hState
  | some s =>
      have hMember : s ∈ c.stateList :=
        c.mem_stateList_iff.mpr ⟨state, hFound⟩
      have hLabel : (s.label == state) = true :=
        beq_iff_eq.mpr (hWell.labelled hFound)
      cases hSearch :
          c.stateList.find? (·.label == state) with
      | none =>
          exact
            absurd hLabel
              (List.find?_eq_none.mp hSearch s hMember)
      | some s' =>
          have hState :=
            hWell.mem_stateList_iff_label.mp
              (List.mem_of_find?_eq_some hSearch)
          have hLabel' := List.find?_some hSearch
          rw [beq_iff_eq.mp hLabel', hFound] at hState
          exact hState.symm

/- A cell of the grid shows where its transition leads. -/
theorem cell?_grid
    (hWell : c.WellFormed)
    (state label : String) :
    c.grid.cell? state (c.gridRow label) =
      (c.transition? state label).map
        Transition.destination := by
  have hState := hWell.find?_stateList state
  rw [List.find?_eq_bind_findIdx?_getElem?] at hState
  unfold Grid.cell? Grid.column? transition?
  rw [← hState]
  simp only [grid, gridRow, List.findIdx?_map,
    Function.comp_def]
  cases c.stateList.findIdx? (·.label == state) with
  | none => rfl
  | some i =>
      simp only [Option.bind_some, List.getElem?_map]
      cases c.stateList[i]? <;> rfl

/- The grid shows where every transition leads. -/
theorem destination?_grid
    (hWell : c.WellFormed)
    (state label : String) :
    c.grid.destination? state label =
      (c.transition? state label).map
        Transition.destination := by
  rw [Grid.destination?_eq, row?_grid]
  by_cases hLabel : label ∈ c.labels
  · rw [if_pos hLabel]
    exact hWell.cell?_grid state label
  · rw [if_neg hLabel]
    cases hFound : c.transition? state label with
    | none => rfl
    | some t =>
        exact
          absurd (c.mem_labels_iff.mpr ⟨state, t, hFound⟩)
            hLabel

/- A step through the grid follows a transition. -/
theorem advance_grid
    (hWell : c.WellFormed)
    (state label : String) :
    c.grid.advance state label =
      ((c.transition? state label).map
        Transition.destination).getD state := by
  unfold Grid.advance
  rw [hWell.destination?_grid]

/- The grid shows which labels leave a state. -/
theorem mem_leaving_grid_iff
    (hWell : c.WellFormed)
    {state label : String} :
    label ∈ c.grid.leaving state ↔
      ∃ t, c.transition? state label = some t := by
  have hRows : c.grid.rows = c.labels.map c.gridRow := rfl
  unfold Grid.leaving
  rw [hRows, List.filter_map, List.map_map, List.mem_map]
  constructor
  · rintro ⟨found, hMember, rfl⟩
    have hCell := (List.mem_filter.mp hMember).2
    rw [Function.comp_apply, hWell.cell?_grid,
      Option.isSome_map] at hCell
    exact Option.isSome_iff_exists.mp hCell
  · rintro ⟨t, hFound⟩
    refine ⟨label, List.mem_filter.mpr ⟨?_, ?_⟩, rfl⟩
    · exact c.mem_labels_iff.mpr ⟨state, t, hFound⟩
    · rw [Function.comp_apply, hWell.cell?_grid, hFound]
      rfl

/- The rows with a cell for a state are its transitions. -/
theorem leaving_grid
    (hWell : c.WellFormed)
    {state : String}
    {s : State G A}
    (hState : c.state? state = some s) :
    c.grid.leaving state = s.transitionLabels := by
  apply ascending_ext String.lt_asymm
    (c.leaving_grid_ascending state)
    s.transitions.keys_ascending
  intro label
  rw [hWell.mem_leaving_grid_iff, LabelMap.mem_keys_iff,
    LabelMap.contains_iff]
  unfold transition?
  rw [hState]
  rfl

------------------------------------------------------------
-- Equal Grids
------------------------------------------------------------

theorem columns_grid
    (hWell : c.WellFormed) :
    c.grid.columns = c.states.keys :=
  hWell.stateList_labels

/- The cells of a row follow the labels of the states. -/
theorem cells_gridRow
    (hWell : c.WellFormed)
    (label : String) :
    (c.gridRow label).cells =
      c.states.keys.map fun state =>
        (c.transition? state label).map
          Transition.destination := by
  rw [← hWell.stateList_labels, List.map_map]
  apply List.map_congr_left
  intro s hMember
  have hState := hWell.mem_stateList_iff_label.mp hMember
  simp only [Function.comp_apply, transition?, hState]

/- A row is as long as the columns, and it is not empty. -/
theorem row_grid
    (hWell : c.WellFormed)
    {row : GridRow}
    (hMember : row ∈ c.grid.rows) :
    row.cells.length = c.grid.columns.length ∧
      ∃ destination, some destination ∈ row.cells := by
  rcases List.mem_map.mp hMember with ⟨label, hLabel, rfl⟩
  rw [hWell.cells_gridRow, hWell.columns_grid]
  refine ⟨List.length_map _, ?_⟩
  rcases c.mem_labels_iff.mp hLabel with ⟨state, t, hFound⟩
  have hState := hasState_of_transition? hFound
  refine
    ⟨t.destination,
      List.mem_map.mpr
        ⟨state, c.states.mem_keys_iff.mpr hState, ?_⟩⟩
  rw [hFound]
  rfl

/-
  Two grids are equal if and only if their charts have the
  same states and the same destinations.
-/
theorem grid_eq_iff
    (hLeft : c.WellFormed)
    (hRight : d.WellFormed) :
    c.grid = d.grid ↔
      (∀ state, c.hasState state = d.hasState state) ∧
        ∀ state label,
          (c.transition? state label).map
              Transition.destination =
            (d.transition? state label).map
              Transition.destination := by
  have hKeys :
      c.states.keys = d.states.keys ↔
        ∀ state, c.hasState state = d.hasState state :=
    LabelMap.keys_eq_iff
  constructor
  · intro hGrids
    constructor
    · rw [← hKeys, ← hLeft.columns_grid, hGrids,
        hRight.columns_grid]
    · intro state label
      rw [← hLeft.destination?_grid, hGrids,
        hRight.destination?_grid]
  · rintro ⟨hStates, hDestinations⟩
    have hColumns : c.grid.columns = d.grid.columns := by
      rw [hLeft.columns_grid, hRight.columns_grid, hKeys]
      exact hStates
    have hRows : c.gridRow = d.gridRow := by
      funext label
      rw [GridRow.mk.injEq]
      refine ⟨rfl, ?_⟩
      rw [hLeft.cells_gridRow, hRight.cells_gridRow,
        hKeys.mpr hStates]
      simp only [hDestinations]
    rw [Grid.mk.injEq]
    refine ⟨hColumns, ?_⟩
    change c.labels.map c.gridRow = d.labels.map d.gridRow
    rw [labels_eq_of_destinations hDestinations, hRows]

end WellFormed

/-
  The grid of a chart shows its transitions. A destination
  is found in it if and only if the transition exists; the
  columns are the states and the rows are the labels that
  leave a state, both in strictly ascending order of bytes;
  every row has one cell for each column, and not all of
  them are empty. Two charts have the same grid if and only
  if they have the same states and the same transitions with
  the same destinations.
-/
theorem grid_shows_transitions
    (hLeft : c.Built)
    (hRight : d.Built) :
    (∀ state label,
        c.grid.destination? state label =
          (c.transition? state label).map
            Transition.destination) ∧
      (∀ state,
        state ∈ c.grid.columns ↔ c.hasState state = true) ∧
      (c.grid.columns.map Text.bytes).Pairwise (· < ·) ∧
      (∀ label,
        label ∈ c.grid.rows.map GridRow.label ↔
          ∃ state t, c.transition? state label = some t) ∧
      (c.grid.rows.map fun row =>
        Text.bytes row.label).Pairwise (· < ·) ∧
      (∀ row ∈ c.grid.rows,
        row.cells.length = c.grid.columns.length ∧
          ∃ destination, some destination ∈ row.cells) ∧
      (c.grid = d.grid ↔
        (∀ state, c.hasState state = d.hasState state) ∧
          ∀ state label,
            (c.transition? state label).map
                Transition.destination =
              (d.transition? state label).map
                Transition.destination) := by
  have hWell := hLeft.wellFormed
  have hLabels :
      c.grid.rows.map GridRow.label = c.labels := by
    change (c.labels.map c.gridRow).map GridRow.label = _
    rw [List.map_map]
    exact List.map_id _
  refine ⟨hWell.destination?_grid, ?_, ?_, ?_, ?_, ?_, ?_⟩
  · intro state
    rw [hWell.columns_grid]
    exact c.states.mem_keys_iff
  · rw [hWell.columns_grid, List.pairwise_map]
    exact
      c.states.keys_ascending.imp Text.bytes_lt_iff.mpr
  · intro label
    rw [hLabels, c.mem_labels_iff]
  · have hOrder := c.labels_ascending
    rw [← hLabels, List.pairwise_map] at hOrder
    exact
      List.pairwise_map.mpr
        (hOrder.imp Text.bytes_lt_iff.mpr)
  · intro row hMember
    exact hWell.row_grid hMember
  · exact hWell.grid_eq_iff hRight.wellFormed

/- Two states that lead to each other. -/
def seesaw : Chart Unit Unit :=
  (Chart.empty.connect "left" "right" "tip").connect "right"
    "left" "back"

/- The same states and labels, but one of them stays. -/
def stuckSeesaw : Chart Unit Unit :=
  seesaw.connect "left" "left" "tip"

/- Their grids differ, though their outlines do not. -/
theorem grid_shows_transitions_stuck :
    seesaw.Built ∧ stuckSeesaw.Built ∧
      seesaw.sameOutline stuckSeesaw = true ∧
      seesaw.grid ≠ stuckSeesaw.grid ∧
      seesaw.grid.destination? "right" "tip" = none := by
  have hSeesaw : seesaw.Built :=
    (Built.empty.connect "left" "right" "tip").connect
      "right" "left" "back"
  have hStuck : stuckSeesaw.Built :=
    hSeesaw.connect "left" "left" "tip"
  rcases grid_shows_transitions hSeesaw hStuck with
    ⟨hShown, _, _, _, _, _, hEqual⟩
  refine ⟨hSeesaw, hStuck, by decide, ?_, ?_⟩
  · intro hSame
    have hTip := (hEqual.mp hSame).2 "left" "tip"
    revert hTip
    decide
  · exact hShown "right" "tip"

end Chart

end Statechart
