import Mathlib.Data.List.Basic
import Statechart.Proofs.Chart.Grid
import Statechart.Proofs.Rule.Effect
import Statechart.Proofs.Rule.Grammar
import Statechart.Proofs.Rule.RoundTrip

/-
  This file states what can be read off a printed grid. The
  grid of a chart that was read from a text has identifiers
  for labels, so its lines, its columns and its cells are
  found again in print. One thing is lost: an empty cell is
  printed like a cell that leads to a state with the name
  `...`, which is an identifier as well.

  Key definitions include:
    * `Grid.ofText`
    * `Grid.shown`
    * `Grid.Legible`
    * `Chart.AvoidsEmptyCell`

  Key theorems include:
    * `Grid.Legible.ofText_text`
    * `Grid.Legible.text_eq_iff`
    * `Chart.legible_of_ofRules`
    * `Chart.WellFormed.shown_grid_iff`
    * `Chart.printed_grid_shows`
    * `Chart.printed_grid_hides_dots`
-/

namespace Statechart

------------------------------------------------------------
-- Printed Lines
------------------------------------------------------------

namespace Grid

/- A word that can be told from a bar. -/
structure Nameable (word : List Char) : Prop where
  solid : Text.Solid word
  nonempty : word ≠ []
  notBar : word ≠ ['|']

/- The names on a printed line are its words but the bars. -/
def namesOn (line : List Char) : List (List Char) :=
  (Text.words line).filter (· != ['|'])

theorem nameable_of_isIdentifier
    {name : List Char}
    (hName : isIdentifier name = true) :
    Nameable name where
  solid := solid_of_isIdentifier hName
  nonempty := (isIdentifier_iff.mp hName).1
  notBar := by
    rintro rfl
    revert hName
    decide

/- The label of a row is printed with a colon. -/
theorem nameable_label
    {name : List Char}
    (hName : isIdentifier name = true) :
    Nameable (name ++ [':']) where
  solid :=
    List.forall_mem_append.mpr
      ⟨solid_of_isIdentifier hName,
        List.forall_mem_singleton.mpr rfl⟩
  nonempty := by simp
  notBar := by
    intro hBar
    have hLast := congrArg List.getLast? hBar
    simp at hLast

theorem namesOn_word
    {word : List Char}
    (hWord : Nameable word) :
    namesOn word = [word] := by
  unfold namesOn
  rw [Text.words_of_solid hWord.solid hWord.nonempty]
  simp [hWord.notBar]

theorem namesOn_append
    {word : List Char}
    (hWord : Nameable word)
    (rest : List Char) :
    namesOn (word ++ ' ' :: rest) =
      word :: namesOn rest := by
  unfold namesOn
  rw [Text.words_append hWord.solid hWord.nonempty
    (by decide)]
  simp [hWord.notBar]

theorem namesOn_bar
    (rest : List Char) :
    namesOn ('|' :: ' ' :: rest) = namesOn rest := by
  have hSolid : Text.Solid ['|'] :=
    List.forall_mem_singleton.mpr rfl
  have hWords :
      Text.words (['|'] ++ ' ' :: rest) =
        ['|'] :: Text.words rest :=
    Text.words_append hSolid (List.cons_ne_nil _ _)
      (by decide) rest
  unfold namesOn
  rw [List.singleton_append] at hWords
  rw [hWords]
  rfl

theorem toList_sideBySide_cons
    (name next : String)
    (rest : List String) :
    (sideBySide (name :: next :: rest)).toList =
      name.toList ++
        ' ' :: '|' :: ' ' ::
          (sideBySide (next :: rest)).toList := by
  simp [sideBySide, String.toList_intercalate]

theorem toList_sideBySide_singleton
    (name : String) :
    (sideBySide [name]).toList = name.toList := by
  simp [sideBySide]

/- Identifiers side by side are found again. -/
theorem namesOn_sideBySide
    {names : List String}
    (hNames :
      ∀ name ∈ names, isIdentifier name.toList = true) :
    namesOn (sideBySide names).toList =
      names.map String.toList := by
  induction names with
  | nil => rfl
  | cons name rest ih =>
      rcases List.forall_mem_cons.mp hNames with
        ⟨hName, hRest⟩
      have hFirst := nameable_of_isIdentifier hName
      cases rest with
      | nil =>
          rw [toList_sideBySide_singleton,
            namesOn_word hFirst]
          rfl
      | cons next rest =>
          -- The bar between two names is a word of its own.
          rw [toList_sideBySide_cons, namesOn_append hFirst,
            namesOn_bar, ih hRest]
          rfl

theorem not_newline_of_isIdentifier
    {name : List Char}
    (hName : isIdentifier name = true) :
    ∀ c ∈ name, (c == '\n') = false := by
  intro c hMember
  rw [beq_eq_false_iff_ne]
  rintro rfl
  exact not_mem_of_isIdentifier (by decide) hName hMember

/- They take a single line. -/
theorem not_newline_of_mem_sideBySide
    {names : List String}
    (hNames :
      ∀ name ∈ names, isIdentifier name.toList = true) :
    ∀ c ∈ (sideBySide names).toList,
      (c == '\n') = false := by
  induction names with
  | nil =>
      intro c hMember
      cases hMember
  | cons name rest ih =>
      rcases List.forall_mem_cons.mp hNames with
        ⟨hName, hRest⟩
      cases rest with
      | nil =>
          rw [toList_sideBySide_singleton]
          exact not_newline_of_isIdentifier hName
      | cons next rest =>
          rw [toList_sideBySide_cons, List.forall_mem_append]
          refine ⟨not_newline_of_isIdentifier hName, ?_⟩
          simp only [List.forall_mem_cons]
          exact ⟨rfl, rfl, rfl, ih hRest⟩

end Grid

------------------------------------------------------------
-- What Is Shown in Print
------------------------------------------------------------

/- A cell that names the empty cell looks empty. -/
def GridRow.shown (row : GridRow) : GridRow :=
  { row with
    cells :=
      row.cells.map (Option.filter (· != Grid.emptyCell)) }

namespace Grid

variable {g h : Grid}

/- What a grid looks like in print. -/
def shown (g : Grid) : Grid :=
  { g with rows := g.rows.map GridRow.shown }

/- The labels on a legible grid are identifiers. -/
structure Legible (g : Grid) : Prop where
  columns :
    ∀ name ∈ g.columns, isIdentifier name.toList = true
  labels :
    ∀ row ∈ g.rows, isIdentifier row.label.toList = true
  cells :
    ∀ row ∈ g.rows,
      ∀ name,
        some name ∈ row.cells →
          isIdentifier name.toList = true

/- A printed cell leads to the state that it names. -/
def cellOf (name : String) : Option String :=
  (some name).filter (· != emptyCell)

/- A printed row. Its first name ends in a colon. -/
def rowOn? (line : List Char) : Option GridRow :=
  match namesOn line with
  | [] => none
  | label :: cells =>
      some
        { label := String.ofList label.dropLast
          cells := cells.map fun c => cellOf (.ofList c) }

/- Read a printed grid: the columns, then the rows. -/
def ofText (text : String) : Grid :=
  match Text.pieces (· == '\n') text.toList with
  | [] => ⟨[], []⟩
  | header :: lines =>
      { columns := (namesOn header).map String.ofList
        rows := lines.filterMap rowOn? }

/- The line of a row, without the line feed. -/
def rowLine (row : GridRow) : List Char :=
  row.label.toList ++ [':'] ++
    ' ' ::
      (sideBySide (row.cells.map (·.getD emptyCell))).toList

theorem toList_rowText
    (row : GridRow) :
    (rowText row).toList = rowLine row ++ ['\n'] := by
  simp [rowText, rowLine]

theorem toList_text
    (g : Grid) :
    g.text.toList =
      ((sideBySide g.columns).toList ::
        g.rows.map rowLine).flatMap (· ++ ['\n']) := by
  simp [text, List.flatMap_map, toList_rowText]

theorem cellOf_getD
    (cell : Option String) :
    cellOf (cell.getD emptyCell) =
      cell.filter (· != emptyCell) := by
  cases cell <;> rfl

/- The sign for an empty cell is an identifier itself. -/
theorem isIdentifier_getD
    {cells : List (Option String)}
    (hCells :
      ∀ name, some name ∈ cells →
        isIdentifier name.toList = true) :
    ∀ name ∈ cells.map (·.getD emptyCell),
      isIdentifier name.toList = true := by
  intro name hMember
  rcases List.mem_map.mp hMember with ⟨cell, hCell, rfl⟩
  cases cell with
  | none => rfl
  | some name => exact hCells name hCell

namespace Legible

theorem rowOn?_rowLine
    (hLegible : g.Legible)
    {row : GridRow}
    (hRow : row ∈ g.rows) :
    rowOn? (rowLine row) = some row.shown := by
  have hCells :=
    isIdentifier_getD (hLegible.cells row hRow)
  have hNames :
      namesOn (rowLine row) =
        (row.label.toList ++ [':']) ::
          (row.cells.map (·.getD emptyCell)).map
            String.toList := by
    unfold rowLine
    rw [namesOn_append
        (nameable_label (hLegible.labels row hRow)),
      namesOn_sideBySide hCells]
  unfold rowOn? GridRow.shown
  rw [hNames]
  simp [cellOf_getD]

/- No line of a legible grid is broken. -/
theorem not_newline_of_mem_line
    (hLegible : g.Legible) :
    ∀ line ∈
        (sideBySide g.columns).toList ::
          g.rows.map rowLine,
      ∀ c ∈ line, (c == '\n') = false := by
  rw [List.forall_mem_cons]
  constructor
  · exact not_newline_of_mem_sideBySide hLegible.columns
  · intro line hLine
    rcases List.mem_map.mp hLine with ⟨row, hRow, rfl⟩
    have hLabel :=
      not_newline_of_isIdentifier (hLegible.labels row hRow)
    have hCells :=
      not_newline_of_mem_sideBySide
        (isIdentifier_getD (hLegible.cells row hRow))
    unfold rowLine
    rw [List.forall_mem_append, List.forall_mem_append,
      List.forall_mem_singleton, List.forall_mem_cons]
    exact ⟨⟨hLabel, rfl⟩, rfl, hCells⟩

/- A printed grid is read as it looks. -/
theorem ofText_text
    (hLegible : g.Legible) :
    ofText g.text = g.shown := by
  have hPieces :
      Text.pieces (· == '\n') g.text.toList =
        (sideBySide g.columns).toList ::
          (g.rows.map rowLine ++ [[]]) := by
    rw [toList_text]
    exact
      Text.pieces_lines (by decide)
        hLegible.not_newline_of_mem_line
  have hColumns :
      (namesOn (sideBySide g.columns).toList).map
          String.ofList =
        g.columns := by
    rw [namesOn_sideBySide hLegible.columns, List.map_map]
    simp [Function.comp_def]
  -- Nothing follows the last line feed, and this is no row.
  have hRows :
      (g.rows.map rowLine ++ [[]]).filterMap rowOn? =
        g.rows.map GridRow.shown := by
    have hLast : [[]].filterMap rowOn? = [] := rfl
    rw [List.filterMap_append, List.filterMap_map, hLast,
      List.append_nil]
    exact
      List.filterMap_eq_map_iff_forall_eq_some.mpr
        fun row hRow => hLegible.rowOn?_rowLine hRow
  simp only [ofText, hPieces, hColumns, hRows, shown]

end Legible

theorem text_shown
    (g : Grid) :
    g.shown.text = g.text := by
  have hCell :
      ∀ cell : Option String,
        (cell.filter (· != emptyCell)).getD emptyCell =
          cell.getD emptyCell := by
    intro cell
    cases cell with
    | none => rfl
    | some name =>
        by_cases hName : name = emptyCell <;>
          simp [Option.filter_some, hName]
  have hRow :
      ∀ row : GridRow, rowText row.shown = rowText row := by
    intro row
    simp only [rowText, GridRow.shown, List.map_map,
      Function.comp_def, hCell]
  simp only [text, shown, List.map_map, Function.comp_def,
    hRow]

/- Grids are printed alike if and only if they look alike. -/
theorem Legible.text_eq_iff
    (hLeft : g.Legible)
    (hRight : h.Legible) :
    g.text = h.text ↔ g.shown = h.shown := by
  constructor
  · intro hText
    rw [← hLeft.ofText_text, hText, hRight.ofText_text]
  · intro hShown
    rw [← text_shown, hShown, text_shown]

theorem cell?_eq
    (g : Grid)
    (state : String)
    (row : GridRow) :
    g.cell? state row =
      (g.column? state).bind fun i =>
        (row.cells[i]?).join := by
  unfold cell?
  cases g.column? state <;> rfl

/- A destination with the name of the empty cell is hidden. -/
theorem destination?_shown
    (g : Grid)
    (state label : String) :
    g.shown.destination? state label =
      (g.destination? state label).filter
        (· != emptyCell) := by
  have hRow :
      g.shown.row? label =
        (g.row? label).map GridRow.shown :=
    List.find?_map
  have hColumn : g.shown.column? state = g.column? state :=
    rfl
  rw [destination?_eq, destination?_eq, hRow]
  cases g.row? label with
  | none => rfl
  | some row =>
      simp only [Option.map_some, Option.bind_some, cell?_eq,
        hColumn, GridRow.shown, List.getElem?_map]
      cases g.column? state with
      | none => rfl
      | some i =>
          simp only [Option.bind_some]
          cases row.cells[i]? <;> rfl

end Grid

------------------------------------------------------------
-- The Printed Grid of a Chart
------------------------------------------------------------

namespace Chart

variable {G A : Type}
variable {c d : Chart G A}
variable {text text' : String}

/- Textual rules are all that a text adds to a chart. -/
theorem exists_rules_of_ofRules
    (hRead : ofRules text = .ok c) :
    ∃ rules : List Rule,
      (∀ r ∈ rules, r.Textual) ∧
        c = Chart.empty.applyAll rules := by
  rw [eq_read_of_ofRules hRead, read_eq]
  refine ⟨_, ?_, rfl⟩
  intro r hMember
  rcases List.mem_filterMap.mp hMember with
    ⟨statement, _, hFound⟩
  exact Rule.textual_of_parse? hFound

theorem Textual.legible_grid
    (hTextual : c.Textual)
    (hWell : c.WellFormed)
    (hStates :
      ∀ state,
        c.hasState state = true →
          isIdentifier state.toList = true) :
    c.grid.Legible where
  columns := by
    intro state hMember
    rw [hWell.columns_grid] at hMember
    exact hStates state (c.states.mem_keys_iff.mp hMember)
  labels := by
    intro row hRow
    rcases List.mem_map.mp hRow with ⟨label, hLabel, rfl⟩
    rcases c.mem_labels_iff.mp hLabel with
      ⟨state, t, hFound⟩
    exact (hTextual state label t hFound).2.1
  cells := by
    intro row hRow name hCell
    rcases List.mem_map.mp hRow with ⟨label, _, rfl⟩
    rw [hWell.cells_gridRow] at hCell
    rcases List.mem_map.mp hCell with ⟨state, _, hName⟩
    rcases Option.map_eq_some_iff.mp hName with
      ⟨t, hFound, rfl⟩
    exact (hTextual state label t hFound).2.2

/- Every state of such a chart is named by a rule. -/
theorem legible_of_ofRules
    (hRead : ofRules text = .ok c) :
    c.grid.Legible := by
  rcases exists_rules_of_ofRules hRead with
    ⟨rules, hRules, rfl⟩
  have hEmpty : (Chart.empty : Chart G A).Textual := by
    intro state label t hFound
    cases hFound
  apply (hEmpty.applyAll .empty hRules).legible_grid
    (WellFormed.empty.applyAll rules)
  intro state hState
  rw [hasState_applyAll_iff, hasState_empty] at hState
  rcases hState with hOld | ⟨r, hMember, rfl | rfl⟩
  · cases hOld
  · exact (hRules r hMember).source
  · exact (hRules r hMember).destination

/- No transition leads to the name of the empty cell. -/
def AvoidsEmptyCell (c : Chart G A) : Prop :=
  ∀ state label t,
    c.transition? state label = some t →
      t.destination ≠ Grid.emptyCell

/- Nothing is lost in print just for such charts. -/
theorem WellFormed.shown_grid_iff
    (hWell : c.WellFormed) :
    c.grid.shown = c.grid ↔ c.AvoidsEmptyCell := by
  constructor
  · intro hShown state label t hFound hDots
    have hLookup := c.grid.destination?_shown state label
    rw [hShown, hWell.destination?_grid, hFound,
      Option.map_some, hDots] at hLookup
    cases hLookup
  · intro hAvoids
    have hRow :
        ∀ label, (c.gridRow label).shown =
          c.gridRow label := by
      intro label
      rw [GridRow.mk.injEq]
      refine ⟨rfl, ?_⟩
      change (c.gridRow label).cells.map _ =
        (c.gridRow label).cells
      rw [hWell.cells_gridRow, List.map_map]
      apply List.map_congr_left
      intro state _
      cases hFound : c.transition? state label with
      | none => simp [hFound]
      | some t =>
          have hName := hAvoids state label t hFound
          simp [hFound, Option.filter_some, hName]
    unfold Grid.shown
    rw [Grid.mk.injEq]
    refine ⟨rfl, ?_⟩
    change (c.labels.map c.gridRow).map GridRow.shown =
      c.labels.map c.gridRow
    rw [List.map_map]
    exact List.map_congr_left fun label _ => hRow label

/-
  The grids of two charts that were read from texts are
  printed alike if and only if they look alike, that is, up
  to cells that are empty in one of them and lead to a state
  with the name `...` in the other. What is read off a
  printed grid is where the transitions lead, except to that
  name. Where no transition leads to it, a printed grid is
  read back as it was, so that different grids are printed
  differently, and a cell is printed as empty only if there
  is no transition.
-/
theorem printed_grid_shows
    (hLeft : ofRules text = .ok c)
    (hRight : ofRules text' = .ok d) :
    (c.grid.text = d.grid.text ↔
        c.grid.shown = d.grid.shown) ∧
      (∀ state label,
        (Grid.ofText c.grid.text).destination? state label =
          ((c.transition? state label).map
            Transition.destination).filter
              (· != Grid.emptyCell)) ∧
      (Grid.ofText c.grid.text = c.grid ↔
        c.AvoidsEmptyCell) ∧
      (c.AvoidsEmptyCell →
        ∀ state label,
          (c.grid.destination? state label).getD
                Grid.emptyCell =
              Grid.emptyCell ↔
            c.transition? state label = none) ∧
      (c.AvoidsEmptyCell →
        d.AvoidsEmptyCell →
          (c.grid.text = d.grid.text ↔ c.grid = d.grid)) := by
  have hWell : c.WellFormed :=
    (Built.of_ofRules hLeft).wellFormed
  have hWell' : d.WellFormed :=
    (Built.of_ofRules hRight).wellFormed
  have hLegible : c.grid.Legible := legible_of_ofRules hLeft
  have hLegible' : d.grid.Legible :=
    legible_of_ofRules hRight
  have hText := hLegible.text_eq_iff hLegible'
  refine ⟨hText, ?_, ?_, ?_, ?_⟩
  · intro state label
    rw [hLegible.ofText_text, Grid.destination?_shown,
      hWell.destination?_grid]
  · rw [hLegible.ofText_text]
    exact hWell.shown_grid_iff
  · intro hAvoids state label
    rw [hWell.destination?_grid]
    cases hFound : c.transition? state label with
    | none => simp
    | some t =>
        have hName := hAvoids state label t hFound
        simp [hName]
  · intro hAvoids hAvoids'
    rw [hText, hWell.shown_grid_iff.mpr hAvoids,
      hWell'.shown_grid_iff.mpr hAvoids']

/- Labels that are made of dots, hyphens and underscores. -/
def dotted : Chart Unit Unit :=
  (Chart.empty.connect "a" ".." ".-").connect ".." "a" "_"

/- One more of them can be left by the last label. -/
def dottedLoop : Chart Unit Unit :=
  dotted.connect "a" "a" "_"

theorem dotted_avoids : dotted.AvoidsEmptyCell :=
  (WellFormed.shown_grid_iff
    ((WellFormed.empty.connect _ _ _).connect _ _ _)).mp rfl

theorem dottedLoop_avoids : dottedLoop.AvoidsEmptyCell :=
  (WellFormed.shown_grid_iff
    (((WellFormed.empty.connect _ _ _).connect _ _
      _).connect _ _ _)).mp rfl

/- Nothing in these labels is taken for an empty cell. -/
theorem printed_grid_shows_dotted :
    ofRules "a -> .. (.-); .. -> a (_)" = .ok dotted ∧
      ofRules "a->..(.-);..->a(_);a->a(_)" =
        .ok dottedLoop ∧
      dotted.AvoidsEmptyCell ∧
      dottedLoop.AvoidsEmptyCell ∧
      dotted.grid.text = ".. | a\n.-: ... | ..\n_: a | ...\n" ∧
      Grid.ofText dotted.grid.text = dotted.grid ∧
      dotted.transition? ".." ".-" = none ∧
      dotted.grid.text ≠ dottedLoop.grid.text := by
  have hLeft :
      ofRules "a -> .. (.-); .. -> a (_)" = .ok dotted :=
    rfl
  have hRight :
      ofRules "a->..(.-);..->a(_);a->a(_)" =
        .ok dottedLoop :=
    rfl
  rcases printed_grid_shows hLeft hRight with
    ⟨_, _, hRead, hEmpty, hSame⟩
  refine
    ⟨hLeft, hRight, dotted_avoids, dottedLoop_avoids, rfl,
      hRead.mpr dotted_avoids,
      (hEmpty dotted_avoids ".." ".-").mp rfl, ?_⟩
  intro hText
  have hGrids :=
    (hSame dotted_avoids dottedLoop_avoids).mp hText
  revert hGrids
  decide

/-
  A state may be called like the empty cell. A transition
  that leads to it is not seen in print, so two charts that
  differ in such a transition have the same printed grid.
-/
theorem printed_grid_hides_dots :
    ∃ c d : Chart Unit Unit,
      ofRules "a -> ... (go)" = .ok c ∧
        ofRules "a -> ... (go); ... -> ... (go)" = .ok d ∧
        c.grid.text = "... | a\ngo: ... | ...\n" ∧
        d.grid.text = "... | a\ngo: ... | ...\n" ∧
        c.grid ≠ d.grid ∧
        c.grid.destination? "..." "go" = none ∧
        d.grid.destination? "..." "go" = some "..." :=
  ⟨Chart.empty.connect "a" "..." "go",
    (Chart.empty.connect "a" "..." "go").connect "..." "..."
      "go",
    rfl, rfl, rfl, rfl, by decide, rfl, rfl⟩

end Chart

end Statechart
