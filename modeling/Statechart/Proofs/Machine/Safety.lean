import Statechart.Proofs.Machine.Fleet

/-
  Safety of runs: whatever is commanded and whatever hooks
  do, the topology of a chart stays what it was, machines
  are in registered states, and attempts fail in expected
  ways only.

  Key definitions include:
    * `Chart.SameViews`

  Key theorems include:
    * `Chart.SameTopology.sameViews`
    * `Fleet.run_safe`
-/

namespace Statechart

------------------------------------------------------------
-- Views of a Chart
------------------------------------------------------------

/-
  Two charts have the same views if they look the same to
  everyone who does not look at hooks.
-/
structure Chart.SameViews
    {G A : Type}
    (c d : Chart G A) : Prop where
  states : c.states.keys = d.states.keys
  transitions :
    ∀ state label,
      (c.transition? state label).map
          (fun t => (t.label, t.source, t.destination)) =
        (d.transition? state label).map
          fun t => (t.label, t.source, t.destination)
  transitionLabels :
    ∀ state,
      (c.state? state).map State.transitionLabels =
        (d.state? state).map State.transitionLabels
  initial : c.initial = d.initial
  ruleText : c.ruleText = d.ruleText
  dot : ∀ options, c.dot options = d.dot options
  grid : c.grid = d.grid
  validate : c.validate = d.validate
  sameOutline :
    ∀ e, c.sameOutline e = d.sameOutline e ∧
      e.sameOutline c = e.sameOutline d

/- The same topology is seen in every view. -/
theorem Chart.SameTopology.sameViews
    {G A : Type}
    {c d : Chart G A}
    (hSame : c.SameTopology d) :
    c.SameViews d where
  states := by
    have hKeys : c.unhooked.states.keys =
        d.unhooked.states.keys :=
      congrArg (·.states.keys) hSame
    simpa [Chart.unhooked, LabelMap.keys_map] using hKeys
  transitions := by
    intro state label
    have hFields :=
      congrArg
        (Option.map fun t =>
          (t.label, t.source, t.destination))
        (hSame.transition?_eq state label)
    simpa [Function.comp_def] using hFields
  transitionLabels := by
    intro state
    have hStates :
        c.unhooked.state? state = d.unhooked.state? state :=
      congrArg (·.state? state) hSame
    have hLabels :=
      congrArg (Option.map State.transitionLabels) hStates
    simpa [Function.comp_def] using hLabels
  initial := hSame.initial_eq
  ruleText := hSame.ruleText_eq
  dot := hSame.dot_eq
  grid := hSame.grid_eq
  validate := hSame.validate_eq
  sameOutline := by
    intro e
    unfold Chart.sameOutline
    rw [hSame.outline_eq]
    exact ⟨rfl, rfl⟩

------------------------------------------------------------
-- Safe Runs
------------------------------------------------------------

/-
  However many machines are bound, whatever they attempt and
  whatever hooks are set or cleared in between or while they
  do: all machines are in registered states from which every
  transition leads to a registered state, the chart has kept
  its topology, and no attempt had an unexpected result.
-/
theorem Fleet.run_safe
    {G A W : Type}
    {c : Chart G A}
    (hBuilt : c.Built)
    (host : Host G A W)
    (world : W)
    (commands : List (Command G A W)) :
    let fleet := (launch c world).run host commands
    let chart := fleet.scene.chart
    (∀ m ∈ fleet.machines,
        chart.hasState m.current = true ∧
          ∀ label t,
            chart.transition? m.current label = some t →
              chart.hasState t.destination = true) ∧
      chart.SameTopology c ∧
      chart.SameViews c ∧
      ∀ index label result,
        .performed index label result ∈ fleet.reports →
          ExpectedResult label result := by
  intro fleet chart
  have hSound : fleet.Sound c :=
    run_sound hBuilt.wellFormed host world commands
  refine
    ⟨?_, hSound.topology, hSound.topology.sameViews,
      hSound.expected⟩
  intro m hMember
  have hWalks := hSound.walks hMember
  refine ⟨hWalks.registered, ?_⟩
  intro label t hFound
  exact hWalks.closed m.current label t hFound

theorem Fleet.run_safe_restless :
    restless.Built ∧
      let fleet :=
        (launch restless LabelMap.empty).run scriptHost
          restlessCommands
      let chart := fleet.scene.chart
      (∀ m ∈ fleet.machines,
          chart.hasState m.current = true ∧
            ∀ label t,
              chart.transition? m.current label = some t →
                chart.hasState t.destination = true) ∧
        chart.SameTopology restless ∧
        chart.SameViews restless ∧
        ∀ index label result,
          .performed index label result ∈ fleet.reports →
            ExpectedResult label result :=
  ⟨restless_built,
    run_safe restless_built scriptHost LabelMap.empty
      restlessCommands⟩

end Statechart
