import Statechart.Proofs.Machine.Fleet

/-
  Hook discipline over whole runs: the deeds of a run are a
  concatenation of one block per attempt, and every block is
  that of one of the ways in which an attempt can end.

  Key definitions include:
    * `ConductAll`

  Key theorems include:
    * `Machine.performAll_conducted`
    * `Fleet.performAll_in_blocks`
-/

namespace Statechart

------------------------------------------------------------
-- Runs of Attempts
------------------------------------------------------------

/-
  Attempts one after another, each from the machine and the
  scene that the one before it leaves, with the results and
  the blocks of all of them.
-/
inductive ConductAll
    {G A W : Type}
    (host : Host G A W) :
    Machine → Scene G A W → List String →
      List (Except Fault Unit) → Machine → Scene G A W →
        List (Block G A) → Prop where
  | nil
      (m : Machine)
      (scene : Scene G A W) :
      ConductAll host m scene [] [] m scene []
  | cons
      {m m₁ m₂ : Machine}
      {scene scene₁ scene₂ : Scene G A W}
      {label : String}
      {labels : List String}
      {result : Except Fault Unit}
      {results : List (Except Fault Unit)}
      {block : Block G A}
      {blocks : List (Block G A)}
      (hFirst :
        Conduct host m scene label result m₁ scene₁ block)
      (hRest :
        ConductAll host m₁ scene₁ labels results m₂ scene₂
          blocks) :
      ConductAll host m scene (label :: labels)
        (result :: results) m₂ scene₂ (block :: blocks)

------------------------------------------------------------
-- Actions Among Deeds
------------------------------------------------------------

section Actions

variable {G A W : Type}
variable {host : Host G A W}
variable {m m' : Machine}
variable {scene scene' : Scene G A W}

/- Checking a gate runs no action. -/
theorem Asked.filter_isAction
    {state label : String}
    {verdict : Bool}
    {trace : List (Happening G A)}
    (hAsked :
      Asked host scene state label verdict scene' trace) :
    trace.filter Happening.isAction = [] := by
  cases hAsked <;> rfl

/- A phase that runs an action does nothing else. -/
theorem Called.filter_isAction
    {kind : HookKind}
    {slot : Option A}
    {state : String}
    {outcome : Except String Unit}
    {trace : List (Happening G A)}
    (hCalled :
      Called host scene kind slot state outcome scene'
        trace) :
    trace.filter Happening.isAction = trace := by
  cases hCalled <;> rfl

/-
  A block is tidy if every phase holds deeds of its own kind:
  no action is run with the gate or the move, and nothing
  else happens where an action is due.
-/
structure Block.Tidy (b : Block G A) : Prop where
  gate : b.gate.filter Happening.isAction = []
  exit : b.exit.filter Happening.isAction = b.exit
  move : b.move.filter Happening.isAction = []
  entry : b.entry.filter Happening.isAction = b.entry
  action : b.action.filter Happening.isAction = b.action

/- The actions of a tidy block are those among its deeds. -/
theorem Block.Tidy.filter_deeds
    {b : Block G A}
    (hTidy : b.Tidy) :
    b.deeds.filter Happening.isAction = b.actions := by
  simp [Block.deeds, Block.actions, hTidy.gate, hTidy.exit,
    hTidy.move, hTidy.entry, hTidy.action]

theorem Crossed.tidy
    {label : String}
    {t : Transition G A}
    {block : Block G A}
    (hCrossed :
      Crossed host m scene label t m' scene' block) :
    block.Tidy := by
  cases hCrossed with
  | intro hFound hAsked hExit hMoved =>
      exact
        { gate := hAsked.filter_isAction
          exit := hExit.filter_isAction
          move := rfl
          entry := rfl
          action := rfl }

theorem Conduct.tidy
    {label : String}
    {result : Except Fault Unit}
    {block : Block G A}
    (hConduct :
      Conduct host m scene label result m' scene' block) :
    block.Tidy := by
  cases hConduct with
  | unknown hMissing => exact ⟨rfl, rfl, rfl, rfl, rfl⟩
  | closed hFound hAsked =>
      exact ⟨hAsked.filter_isAction, rfl, rfl, rfl, rfl⟩
  | failedExit hFound hAsked hExit =>
      exact
        ⟨hAsked.filter_isAction, hExit.filter_isAction, rfl,
          rfl, rfl⟩
  | failedEntry hCrossed hEntry =>
      have hTidy := hCrossed.tidy
      exact
        ⟨hTidy.gate, hTidy.exit, hTidy.move,
          hEntry.filter_isAction, hTidy.action⟩
  | failedAction hCrossed hEntry hAction =>
      have hTidy := hCrossed.tidy
      exact
        ⟨hTidy.gate, hTidy.exit, hTidy.move,
          hEntry.filter_isAction, hAction.filter_isAction⟩
  | done hCrossed hEntry hAction =>
      have hTidy := hCrossed.tidy
      exact
        ⟨hTidy.gate, hTidy.exit, hTidy.move,
          hEntry.filter_isAction, hAction.filter_isAction⟩

end Actions

------------------------------------------------------------
-- Runs in Blocks
------------------------------------------------------------

section Runs

variable {G A W : Type}
variable {host : Host G A W}

/- The actions of a run are those among its deeds. -/
theorem ConductAll.filter_isAction
    {m m' : Machine}
    {scene scene' : Scene G A W}
    {labels : List String}
    {results : List (Except Fault Unit)}
    {blocks : List (Block G A)}
    (hConduct :
      ConductAll host m scene labels results m' scene'
        blocks) :
    (blocks.map Block.deeds).flatten.filter
        Happening.isAction =
      (blocks.map Block.actions).flatten := by
  induction hConduct with
  | nil m scene => rfl
  | cons hFirst hRest ih =>
      simp only [List.map_cons, List.flatten_cons,
        List.filter_append, hFirst.tidy.filter_deeds, ih]

/- A machine that walks its chart conducts every run. -/
theorem Machine.performAll_conducted
    (host : Host G A W)
    (m : Machine)
    {scene : Scene G A W}
    (hWalks : m.Walks scene.chart)
    (labels : List String) :
    ∃ blocks,
      ConductAll host m scene labels
          (m.performAll host scene labels).results
          (m.performAll host scene labels).machine
          (m.performAll host scene labels).scene blocks ∧
        (m.performAll host scene labels).trace.filter
            Happening.isDeed =
          (blocks.map Block.deeds).flatten := by
  induction labels generalizing m scene with
  | nil => exact ⟨[], ConductAll.nil m scene, rfl⟩
  | cons label rest ih =>
      rcases m.perform_conducted host hWalks label with
        ⟨block, hFirst, hDeeds⟩
      rcases ih _ (hFirst.walks hWalks) with
        ⟨blocks, hRest, hTrace⟩
      refine
        ⟨block :: blocks, ConductAll.cons hFirst hRest, ?_⟩
      simp only [performAll, List.filter_append,
        List.map_cons, List.flatten_cons]
      rw [hTrace, hDeeds]

/- Actions are deeds, so they are found among the deeds. -/
theorem Happening.filter_isAction_isDeed
    (trace : List (Happening G A)) :
    (trace.filter isDeed).filter isAction =
      trace.filter isAction := by
  rw [List.filter_filter]
  congr 1
  funext h
  cases h <;> rfl

/-
  Whatever the hooks of a chart do, and whatever happened to
  the fleet before, the deeds of a run of a bound machine
  are one block for each attempt, and so are its actions.
-/
theorem Fleet.performAll_in_blocks
    {c : Chart G A}
    (hBuilt : c.Built)
    (host : Host G A W)
    (world : W)
    (commands : List (Command G A W))
    {m : Machine}
    (hMachine :
      m ∈ ((launch c world).run host commands).machines)
    (labels : List String) :
    let scene := ((launch c world).run host commands).scene
    let journey := m.performAll host scene labels
    ∃ blocks,
      ConductAll host m scene labels journey.results
          journey.machine journey.scene blocks ∧
        journey.trace.filter Happening.isDeed =
          (blocks.map Block.deeds).flatten ∧
        journey.trace.filter Happening.isAction =
          (blocks.map Block.actions).flatten := by
  intro scene journey
  have hSound :=
    run_sound hBuilt.wellFormed host world commands
  rcases m.performAll_conducted host (hSound.walks hMachine)
      labels with
    ⟨blocks, hConduct, hDeeds⟩
  refine ⟨blocks, hConduct, hDeeds, ?_⟩
  rw [← hConduct.filter_isAction, ← hDeeds,
    Happening.filter_isAction_isDeed]

/- The second machine of the restless chart gets stuck. -/
theorem Fleet.performAll_in_blocks_restless :
    let fleet :=
      (launch restless LabelMap.empty).run scriptHost
        restlessCommands
    let m := Machine.start .standard "on"
    let journey :=
      m.performAll scriptHost fleet.scene
        ["spin", "jump", "spin"]
    restless.Built ∧ m ∈ fleet.machines ∧
      ∃ blocks,
        ConductAll scriptHost m fleet.scene
            ["spin", "jump", "spin"] journey.results
            journey.machine journey.scene blocks ∧
          journey.trace.filter Happening.isDeed =
            (blocks.map Block.deeds).flatten ∧
          journey.trace.filter Happening.isAction =
            (blocks.map Block.actions).flatten := by
  intro fleet m journey
  have hMachine : m ∈ fleet.machines := by
    have hSecond : fleet.machines[1]? = some m := by rfl
    exact List.mem_of_getElem? hSecond
  exact
    ⟨restless_built, hMachine,
      performAll_in_blocks restless_built scriptHost
        LabelMap.empty restlessCommands hMachine
        ["spin", "jump", "spin"]⟩

end Runs

end Statechart
