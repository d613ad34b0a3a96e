import Statechart.Proofs.Chart.Grid
import Statechart.Proofs.Chart.Hooks
import Statechart.Proofs.Machine.Trail

/-
  This file states that machines go where the grid of their
  chart tells them to. An attempt leads to the cell of the
  current state and the label, or it leads nowhere. As long
  as there are no gates and no exit action fails, every
  attempt leads to its cell, so that the current state can
  be computed from the grid and the labels alone.

  Key definitions include:
    * `FailedExit`
    * `Fleet.UngatedRun`

  Key theorems include:
    * `Conduct.exitCompleted_of_ungated`
    * `Chart.WellFormed.finish_trail_append`
    * `Fleet.step_reports`
    * `Fleet.finish_trail_eq_foldl`
    * `Fleet.Sound.perform_in_grid`
    * `Fleet.Sound.available_eq_leaving`
    * `Fleet.machine_refines_grid`
-/

namespace Statechart

------------------------------------------------------------
-- Attempts without Gates
------------------------------------------------------------

/- A transition without a gate is open. -/
theorem Asked.verdict_eq_true
    {G A W : Type}
    {host : Host G A W}
    {scene scene' : Scene G A W}
    {state label : String}
    {verdict : Bool}
    {trace : List (Happening G A)}
    (hAsked :
      Asked host scene state label verdict scene' trace)
    (hGate : scene.chart.gateOf state label = none) :
    verdict = true := by
  cases hAsked with
  | unguarded _ => rfl
  | guarded hGuarded _ _ =>
      rw [hGate] at hGuarded
      cases hGuarded

/- The result of an attempt that an exit action ended. -/
def FailedExit (result : Except Fault Unit) : Prop :=
  ∃ state cause,
    result = .error (.failedAction .exit state cause)

/-
  Without gates, an attempt at a transition that exists does
  not get stuck before the move, unless the exit action
  fails.
-/
theorem Conduct.exitCompleted_of_ungated
    {G A W : Type}
    {host : Host G A W}
    {m m' : Machine}
    {scene scene' : Scene G A W}
    {label : String}
    {result : Except Fault Unit}
    {block : Block G A}
    (hConduct :
      Conduct host m scene label result m' scene' block)
    (hUngated : scene.chart.Ungated)
    (hExit : ¬ FailedExit result) :
    exitCompleted result = true ∨
      scene.chart.transition? m.current label = none := by
  cases hConduct with
  | unknown hMissing => exact Or.inr hMissing
  | closed hFound hAsked =>
      have hOpen :=
        hAsked.verdict_eq_true
          (hUngated.gateOf_eq_none m.current label)
      cases hOpen
  | failedExit hFound hAsked hFailed =>
      exact absurd ⟨_, _, rfl⟩ hExit
  | failedEntry hCrossed hEntry => exact Or.inl rfl
  | failedAction hCrossed hEntry hAction => exact Or.inl rfl
  | done hCrossed hEntry hAction => exact Or.inl rfl

------------------------------------------------------------
-- Trails and Grids
------------------------------------------------------------

/-
  An attempt that completes its exit phase, or that has no
  transition to follow, takes the trail one step through the
  grid.
-/
theorem Chart.WellFormed.finish_trail_append
    {G A : Type}
    {c : Chart G A}
    (hWell : c.WellFormed)
    (start : String)
    (earlier : List (String × Except Fault Unit))
    {label : String}
    {result : Except Fault Unit}
    (hAdvance :
      exitCompleted result = true ∨
        c.transition?
          (Leg.finish start (c.trail start earlier))
          label = none) :
    Leg.finish start
        (c.trail start (earlier ++ [(label, result)])) =
      c.grid.advance
        (Leg.finish start (c.trail start earlier))
        label := by
  rw [trail_append, Leg.finish_append, hWell.advance_grid]
  generalize Leg.finish start (c.trail start earlier) =
    here at hAdvance ⊢
  cases hFound : c.transition? here label with
  | none => simp [trail, hFound, Leg.finish]
  | some t =>
      rw [hFound] at hAdvance
      have hCompleted : exitCompleted result = true := by
        simpa using hAdvance
      simp [trail, hFound, hCompleted, Leg.finish]

------------------------------------------------------------
-- Runs of a Fleet
------------------------------------------------------------

namespace Fleet

variable {G A W : Type}

/-
  A command is answered by one report. The report is about
  an attempt of a machine only if that machine was told to
  perform a transition, and then it tells the result.
-/
theorem step_reports
    (host : Host G A W)
    (fleet : Fleet G A W)
    (command : Command G A W) :
    ∃ r,
      (fleet.step host command).reports =
          fleet.reports ++ [r] ∧
        ∀ index label result,
          r.attemptOf? index = some (label, result) →
            ∃ m,
              command = .tell index (.perform label) ∧
                fleet.machines[index]? = some m ∧
                result =
                  (m.perform host fleet.scene
                    label).result := by
  have hOther :
      ∀ {r : Report} {P : Nat → String →
          Except Fault Unit → Prop},
        (∀ index, r.attemptOf? index = none) →
          ∀ index label result,
            r.attemptOf? index = some (label, result) →
              P index label result := by
    intro r P hNone index label result hAttempt
    rw [hNone] at hAttempt
    cases hAttempt
  cases command with
  | bind settings =>
      simp only [step, bind]
      cases Machine.bind settings fleet.scene.chart with
      | error fault => exact ⟨_, rfl, hOther fun _ => rfl⟩
      | ok m => exact ⟨_, rfl, hOther fun _ => rfl⟩
  | tell index order =>
      simp only [step]
      cases hMachine : fleet.machines[index]? with
      | none => exact ⟨_, rfl, hOther fun _ => rfl⟩
      | some m =>
          cases order with
          | perform label =>
              refine ⟨_, rfl, ?_⟩
              intro index' label' result hAttempt
              simp only [Report.attemptOf?] at hAttempt
              split at hAttempt
              · rename_i hIndex
                subst hIndex
                cases hAttempt
                exact ⟨m, rfl, hMachine, rfl⟩
              · cases hAttempt
          | can label => exact ⟨_, rfl, hOther fun _ => rfl⟩
          | setLogger logger =>
              exact ⟨_, rfl, hOther fun _ => rfl⟩
  | edit e => exact ⟨_, rfl, hOther fun _ => rfl⟩
  | setWorld world => exact ⟨_, rfl, hOther fun _ => rfl⟩

theorem run_append
    (host : Host G A W)
    (fleet : Fleet G A W)
    (first second : List (Command G A W)) :
    fleet.run host (first ++ second) =
      (fleet.run host first).run host second :=
  List.foldl_append

/- Reports are never taken back. -/
theorem reports_prefix
    (host : Host G A W)
    (fleet : Fleet G A W)
    (commands : List (Command G A W)) :
    fleet.reports <+: (fleet.run host commands).reports := by
  refine
    run_invariant
      (fun later => fleet.reports <+: later.reports)
      ?_ List.prefix_rfl commands
  intro later command hPrefix
  rcases step_reports host later command with ⟨r, hEq, _⟩
  rw [hEq]
  exact hPrefix.trans (List.prefix_append _ _)

/- The attempts at the start of a run are attempts of it. -/
theorem mem_attempts_of_take
    {host : Host G A W}
    {fleet : Fleet G A W}
    {commands : List (Command G A W)}
    {n index : Nat}
    {attempt : String × Except Fault Unit}
    (hMember :
      attempt ∈
        attempts index
          (fleet.run host (commands.take n)).reports) :
    attempt ∈
      attempts index (fleet.run host commands).reports := by
  have hPrefix :=
    reports_prefix host
      (fleet.run host (commands.take n)) (commands.drop n)
  rw [← run_append, List.take_append_drop] at hPrefix
  exact (hPrefix.filterMap _).subset hMember

/-
  A run is ungated for a machine if no transition has a gate
  whenever that machine makes an attempt.
-/
def UngatedRun
    (host : Host G A W)
    (fleet : Fleet G A W)
    (commands : List (Command G A W))
    (index : Nat) : Prop :=
  ∀ n label,
    commands[n]? = some (.tell index (.perform label)) →
      (fleet.run host (commands.take n)).scene.chart.Ungated

/-
  An attempt that is made without gates, and that no exit
  action ends, takes the trail one step through the grid.
-/
theorem finish_trail_perform
    {c : Chart G A}
    {fleet : Fleet G A W}
    (hWell : c.WellFormed)
    (hSound : fleet.Sound c)
    (hTracked : fleet.Tracked c)
    {index : Nat}
    {m : Machine}
    (hMachine : fleet.machines[index]? = some m)
    (hUngated : fleet.scene.chart.Ungated)
    (host : Host G A W)
    (label : String)
    (hExit :
      ¬ FailedExit (m.perform host fleet.scene label).result)
    {start : String}
    (hStart : c.initial = some start) :
    let earlier := attempts index fleet.reports
    let result := (m.perform host fleet.scene label).result
    Leg.finish start
        (c.trail start (earlier ++ [(label, result)])) =
      c.grid.advance
        (Leg.finish start (c.trail start earlier))
        label := by
  intro earlier result
  rcases hTracked.follows index m hMachine with
    ⟨start', hStart', hFollows⟩
  cases hStart'.symm.trans hStart
  have hWalks := hSound.walks (List.mem_of_getElem? hMachine)
  rcases m.perform_conducted host hWalks label with
    ⟨block, hConduct, _⟩
  apply hWell.finish_trail_append
  rw [← hFollows.current]
  refine (hConduct.exitCompleted_of_ungated hUngated
    hExit).imp_right ?_
  intro hMissing
  have hSame :=
    hSound.topology.transition?_eq m.current label
  rw [hMissing] at hSame
  exact Option.map_eq_none_iff.mp hSame.symm

/-
  If a run is ungated for a machine, and none of its
  attempts ends with a failed exit action, then its trail
  leads where the grid leads. By induction on the number of
  commands that were followed.
-/
theorem finish_trail_eq_foldl
    {c : Chart G A}
    (hWell : c.WellFormed)
    {host : Host G A W}
    {world : W}
    {commands : List (Command G A W)}
    {index : Nat}
    (hUngated :
      UngatedRun host (launch c world) commands index)
    (hExits :
      ∀ attempt ∈
          attempts index
            ((launch c world).run host commands).reports,
        ¬ FailedExit attempt.2)
    {start : String}
    (hStart : c.initial = some start)
    (n : Nat) :
    let fleet :=
      (launch c world).run host (commands.take n)
    Leg.finish start
        (c.trail start (attempts index fleet.reports)) =
      ((attempts index fleet.reports).map Prod.fst).foldl
        c.grid.advance start := by
  intro fleet
  induction n with
  | zero => rfl
  | succ n ih =>
      have hMore :
          ∀ attempt ∈ attempts index fleet.reports,
            ¬ FailedExit attempt.2 :=
        fun attempt hMember =>
          hExits attempt (mem_attempts_of_take hMember)
      let before :=
        (launch c world).run host (commands.take n)
      have hFleet :
          fleet = before.run host commands[n]?.toList := by
        simp only [fleet, before, List.take_add_one,
          run_append]
      cases hCommand : commands[n]? with
      | none =>
          rw [hCommand] at hFleet
          rw [hFleet]
          exact ih
      | some command =>
          rw [hCommand] at hFleet
          have hStep : fleet = before.step host command :=
            hFleet
          rcases step_reports host before command with
            ⟨r, hReports, hAttempt⟩
          rw [hStep, hReports, attempts_report] at hMore ⊢
          cases hEq : r.attemptOf? index with
          | none => simpa using ih
          | some attempt =>
              obtain ⟨label, result⟩ := attempt
              rcases hAttempt index label result hEq with
                ⟨m, rfl, hMachine, rfl⟩
              rw [hEq] at hMore
              have hExit :=
                hMore _
                  (List.mem_append_right _
                    List.mem_cons_self)
              have hAdvance :=
                finish_trail_perform hWell
                  (run_sound hWell host world _)
                  (run_tracked hWell host world _) hMachine
                  (hUngated n label hCommand) host label
                  hExit hStart
              simp only [Option.toList_some, List.map_append,
                List.map_singleton, List.foldl_append,
                List.foldl_cons, List.foldl_nil]
              rw [hAdvance, ih]

/- An attempt leads to a cell of the grid, or nowhere. -/
theorem Sound.perform_in_grid
    {c : Chart G A}
    {fleet : Fleet G A W}
    (hSound : fleet.Sound c)
    (hWell : c.WellFormed)
    {m : Machine}
    (hMember : m ∈ fleet.machines)
    (host : Host G A W)
    (label : String) :
    let next := (m.perform host fleet.scene label).machine
    (next.current = m.current ∨
        c.grid.destination? m.current label =
          some next.current) ∧
      (c.grid.destination? m.current label = none →
        next.current = m.current) := by
  intro next
  rcases m.perform_conducted host (hSound.walks hMember)
      label with
    ⟨block, hConduct, _⟩
  rw [hWell.destination?_grid]
  rcases hConduct.unchanged_or_moved with
    hSame | ⟨t, hFound, hMoved⟩
  · have hCurrent : next.current = m.current :=
      congrArg Machine.current hSame
    exact ⟨Or.inl hCurrent, fun _ => hCurrent⟩
  · rcases hSound.topology.exists_transition? hFound with
      ⟨t', hFound', hUnhooked⟩
    have hFields :=
      Transition.fields_eq_of_unhooked_eq hUnhooked
    have hCurrent : next.current = t'.destination :=
      hMoved.current.trans hFields.2.2.symm
    rw [hFound', hCurrent]
    exact ⟨Or.inr rfl, nofun⟩

/- The grid shows which transitions are available. -/
theorem Sound.available_eq_leaving
    {c : Chart G A}
    {fleet : Fleet G A W}
    (hSound : fleet.Sound c)
    (hWell : c.WellFormed)
    {m : Machine}
    (hMember : m ∈ fleet.machines) :
    m.available fleet.scene.chart =
      c.grid.leaving m.current := by
  have hWellNow := hWell.of_sameTopology hSound.topology
  have hRegistered := (hSound.walks hMember).registered
  rcases fleet.scene.chart.hasState_iff.mp hRegistered with
    ⟨s, hState⟩
  rw [← hSound.topology.grid_eq,
    hWellNow.leaving_grid hState]
  unfold Machine.available Machine.currentState?
  rw [hState]

/-
  A machine refines the grid of its chart. Whatever the host
  does, an attempt leaves the machine where it is or takes
  it to the destination that the grid holds, and nowhere if
  it holds none; and the transitions that are available are
  the rows with a cell for the current state. If no
  transition has a gate whenever the machine makes an
  attempt, and no exit action fails, then the current state
  is reached from the initial one by following the labels of
  all attempts through the grid.
-/
theorem machine_refines_grid
    {c : Chart G A}
    (hBuilt : c.Built)
    (host : Host G A W)
    (world : W)
    (commands : List (Command G A W))
    {index : Nat}
    {m : Machine}
    (hMachine :
      ((launch c world).run host commands).machines[index]? =
        some m) :
    let fleet := (launch c world).run host commands
    let made := attempts index fleet.reports
    (∀ label,
      let next := (m.perform host fleet.scene label).machine
      (next.current = m.current ∨
          c.grid.destination? m.current label =
            some next.current) ∧
        (c.grid.destination? m.current label = none →
          next.current = m.current)) ∧
      m.available fleet.scene.chart =
        c.grid.leaving m.current ∧
      (c.grid.leaving m.current).Pairwise (· < ·) ∧
      (UngatedRun host (launch c world) commands index →
        (∀ attempt ∈ made, ¬ FailedExit attempt.2) →
          ∃ start,
            c.initial = some start ∧
              m.current =
                (made.map Prod.fst).foldl c.grid.advance
                  start) := by
  intro fleet made
  have hWell := hBuilt.wellFormed
  have hSound : fleet.Sound c :=
    run_sound hWell host world commands
  have hTracked : fleet.Tracked c :=
    run_tracked hWell host world commands
  have hMember := List.mem_of_getElem? hMachine
  refine
    ⟨hSound.perform_in_grid hWell hMember host,
      hSound.available_eq_leaving hWell hMember,
      c.leaving_grid_ascending _, ?_⟩
  intro hUngated hExits
  rcases hTracked.follows index m hMachine with
    ⟨start, hStart, hFollows⟩
  refine ⟨start, hStart, ?_⟩
  have hFold :=
    finish_trail_eq_foldl hWell hUngated hExits hStart
      commands.length
  rw [List.take_length] at hFold
  exact hFollows.current.trans hFold

end Fleet

------------------------------------------------------------
-- A Shuttle
------------------------------------------------------------

/-
  Two states that can be left for each other. Every arrival
  at the second one is reported as a failure.
-/
def shuttle : ScriptedChart :=
  ((Chart.empty.connect "a" "b" "go").connect
    "b" "a" "back").edit
      (.entry "b" (some [.fail "jammed"]))

theorem shuttle_built : shuttle.Built :=
  ((Chart.Built.empty.connect "a" "b" "go").connect
    "b" "a" "back").edit _

/- A machine goes to and fro and tries to jump in between. -/
def shuttleCommands :
    List (Fleet.Command Condition Script Variables) :=
  [ .bind .standard,
    .tell 0 (.perform "go"), .tell 0 (.perform "jump"),
    .tell 0 (.perform "back"), .tell 0 (.perform "go") ]

/- The shuttle goes where its grid leads, in spite of it. -/
theorem Fleet.machine_refines_grid_shuttle :
    shuttle.Built ∧
      let fleet :=
        (launch shuttle LabelMap.empty).run scriptHost
          shuttleCommands
      let made := attempts 0 fleet.reports
      made.map Prod.fst = ["go", "jump", "back", "go"] ∧
        UngatedRun scriptHost
          (launch shuttle LabelMap.empty) shuttleCommands 0 ∧
        (∀ attempt ∈ made, ¬ FailedExit attempt.2) ∧
        ∃ m,
          fleet.machines[0]? = some m ∧
            m.available fleet.scene.chart = ["back"] ∧
            m.current =
              ["go", "jump", "back", "go"].foldl
                shuttle.grid.advance "a" := by
  refine ⟨shuttle_built, ?_⟩
  intro fleet made
  have hMade :
      made =
        [ ("go",
            .error (.failedAction .entry "b" "jammed")),
          ("jump", .error (.noTransition "b" "jump")),
          ("back", .ok ()),
          ("go",
            .error (.failedAction .entry "b" "jammed")) ] := by
    rfl
  have hLabels :
      made.map Prod.fst =
        ["go", "jump", "back", "go"] := by
    rw [hMade]
    rfl
  have hUngated :
      UngatedRun scriptHost (launch shuttle LabelMap.empty)
        shuttleCommands 0 := by
    intro n label hCommand
    have hLength : n < 5 := by
      exact (List.getElem?_eq_some_iff.mp hCommand).1
    have hGates :
        ∀ n < 5,
          ((launch shuttle LabelMap.empty).run scriptHost
            (shuttleCommands.take
              n)).scene.chart.gates.isEmpty = true := by
      decide
    exact List.isEmpty_iff.mp (hGates n hLength)
  have hExits :
      ∀ attempt ∈ made, ¬ FailedExit attempt.2 := by
    rw [hMade]
    simp [FailedExit]
  have hFirst :
      fleet.machines[0]?.isSome = true := by
    rfl
  rcases Option.isSome_iff_exists.mp hFirst with
    ⟨m, hMachine⟩
  rcases machine_refines_grid shuttle_built scriptHost
      LabelMap.empty shuttleCommands hMachine with
    ⟨_, hAvailable, _, hFold⟩
  rcases hFold hUngated hExits with
    ⟨start, hStart, hCurrent⟩
  have hInitial : shuttle.initial = some "a" := by
    rfl
  cases hStart.symm.trans hInitial
  refine
    ⟨hLabels, hUngated, hExits, m, hMachine, ?_, ?_⟩
  · rw [hAvailable, hCurrent]
    rfl
  · rw [hCurrent]
    exact congrArg _ hLabels

end Statechart
