import Statechart.Proofs.Chart.Built
import Statechart.Proofs.Machine.Conduct
import Statechart.Script.Basic

/-
  This file defines fleets: any number of machines that walk
  one chart together. A fleet follows commands one by one.
  It binds machines, lets them perform transitions and asks
  them whether they could, while the host sets and clears
  hooks and changes its world in between. What a command
  came to is reported.

  Key definitions include:
    * `Fleet`
    * `Fleet.Command`
    * `Fleet.Report`
    * `Fleet.step`
    * `Fleet.run`
    * `Fleet.Sound`

  Key theorems include:
    * `Chart.WellFormed.bind_eq_ok_iff`
    * `Fleet.run_invariant`
    * `Fleet.run_sound`
-/

namespace Statechart

------------------------------------------------------------
-- Binding
------------------------------------------------------------

/-
  A machine can be bound to a well-formed chart if and only
  if the chart is closed and has an initial state, and it
  starts there.
-/
theorem Chart.WellFormed.bind_eq_ok_iff
    {G A : Type}
    {c : Chart G A}
    (hWell : c.WellFormed)
    {settings : Settings}
    {m : Machine} :
    Machine.bind settings c = .ok m ↔
      c.Closed ∧
        ∃ label, c.initial = some label ∧
          m = Machine.start settings label := by
  unfold Machine.bind
  cases hValid : c.validate with
  | error e =>
      have hOpen : ¬ c.Closed := by
        rw [← c.validate_eq_ok_iff, hValid]
        simp
      simp [hOpen]
  | ok u =>
      have hClosed : c.Closed :=
        c.validate_eq_ok_iff.mp hValid
      rw [← hWell.map_label_initialState?]
      cases c.initialState? with
      | none => simp
      | some s => simp [hClosed, eq_comm]

/- A machine that is bound to a chart walks it. -/
theorem Chart.WellFormed.walks_of_bind
    {G A : Type}
    {c : Chart G A}
    (hWell : c.WellFormed)
    {settings : Settings}
    {m : Machine}
    (hBound : Machine.bind settings c = .ok m) :
    m.Walks c := by
  rcases hWell.bind_eq_ok_iff.mp hBound with
    ⟨hClosed, label, hInitial, rfl⟩
  exact ⟨hWell.registered hInitial, hClosed⟩

------------------------------------------------------------
-- Expected Results
------------------------------------------------------------

/-
  The results that an attempt of a bound machine can have:
  success, a missing transition, a closed gate, and an
  action that failed.
-/
def ExpectedResult
    (label : String)
    (result : Except Fault Unit) : Prop :=
  result = .ok () ∨
    (∃ state, result = .error (.noTransition state label)) ∨
    (∃ state, result = .error (.closedGate state label)) ∨
    ∃ kind state cause,
      result = .error (.failedAction kind state cause)

theorem Conduct.expected
    {G A W : Type}
    {host : Host G A W}
    {m m' : Machine}
    {scene scene' : Scene G A W}
    {label : String}
    {result : Except Fault Unit}
    {block : Block G A}
    (hConduct :
      Conduct host m scene label result m' scene' block) :
    ExpectedResult label result := by
  cases hConduct with
  | unknown hMissing => exact Or.inr (Or.inl ⟨_, rfl⟩)
  | closed hFound hAsked =>
      exact Or.inr (Or.inr (Or.inl ⟨_, rfl⟩))
  | failedExit hFound hAsked hExit =>
      exact Or.inr (Or.inr (Or.inr ⟨_, _, _, rfl⟩))
  | failedEntry hCrossed hEntry =>
      exact Or.inr (Or.inr (Or.inr ⟨_, _, _, rfl⟩))
  | failedAction hCrossed hEntry hAction =>
      exact Or.inr (Or.inr (Or.inr ⟨_, _, _, rfl⟩))
  | done hCrossed hEntry hAction => exact Or.inl rfl

namespace Fleet

------------------------------------------------------------
-- Commands and Reports
------------------------------------------------------------

/- What a single machine is told to do. -/
inductive Order where
  | perform (label : String)
  | can (label : String)
  | setLogger (logger : Option String)

/-
  Machines are numbered in the order in which they are bound.
-/
inductive Command (G A W : Type) where
  | bind (settings : Settings)
  | tell (machine : Nat) (order : Order)
  | edit (e : HookEdit G A)
  | setWorld (world : W)

/- What a command came to. -/
inductive Report where
  | bound (machine : Nat) (settings : Settings)
  | refused (fault : Fault)
  | performed
      (machine : Nat)
      (label : String)
      (result : Except Fault Unit)
  | asked
      (machine : Nat)
      (label : String)
      (answer : Except Fault Bool)
  | quiet

end Fleet

------------------------------------------------------------
-- Fleets
------------------------------------------------------------

/-
  A fleet has a scene, the machines that were bound, and the
  reports about the commands it followed, oldest first.
-/
structure Fleet (G A W : Type) where
  scene : Scene G A W
  machines : List Machine
  reports : List Fleet.Report

namespace Fleet

variable {G A W : Type}

/- A fleet without machines. -/
def launch
    (c : Chart G A)
    (world : W) : Fleet G A W where
  scene := ⟨c, world⟩
  machines := []
  reports := []

/- Add a report to those of a fleet. -/
def report
    (fleet : Fleet G A W)
    (r : Report) : Fleet G A W :=
  { fleet with reports := fleet.reports ++ [r] }

/- Bind one more machine, if the chart allows it. -/
def bind
    (fleet : Fleet G A W)
    (settings : Settings) : Fleet G A W :=
  match Machine.bind settings fleet.scene.chart with
  | .error fault => fleet.report (.refused fault)
  | .ok m =>
      { fleet with machines := fleet.machines ++ [m] }.report
        (.bound fleet.machines.length settings)

/- Let a machine obey an order. -/
def obey
    (host : Host G A W)
    (fleet : Fleet G A W)
    (index : Nat)
    (m : Machine) :
    Order → Fleet G A W
  | .perform label =>
      let attempt := m.perform host fleet.scene label
      { fleet with
        scene := attempt.scene
        machines :=
          fleet.machines.set index attempt.machine }.report
        (.performed index label attempt.result)
  | .can label =>
      let asked := m.can host fleet.scene label
      { fleet with scene := asked.scene }.report
        (.asked index label asked.value)
  | .setLogger logger =>
      { fleet with
        machines :=
          fleet.machines.set index
            { m with logger := logger } }.report .quiet

/-
  Follow a command. An order for a machine that was never
  bound has no effect.
-/
def step
    (host : Host G A W)
    (fleet : Fleet G A W) :
    Command G A W → Fleet G A W
  | .bind settings => fleet.bind settings
  | .tell index order =>
      match fleet.machines[index]? with
      | none => fleet.report .quiet
      | some m => fleet.obey host index m order
  | .edit e =>
      { fleet with
        scene.chart := fleet.scene.chart.edit e }.report
        .quiet
  | .setWorld world =>
      { fleet with scene.world := world }.report .quiet

/- Follow commands in order. -/
def run
    (host : Host G A W)
    (fleet : Fleet G A W)
    (commands : List (Command G A W)) : Fleet G A W :=
  commands.foldl (step host) fleet

/- What every command keeps holds after every run. -/
theorem run_invariant
    {host : Host G A W}
    (P : Fleet G A W → Prop)
    (hStep :
      ∀ fleet command, P fleet → P (fleet.step host command))
    {fleet : Fleet G A W}
    (hStart : P fleet)
    (commands : List (Command G A W)) :
    P (fleet.run host commands) := by
  unfold run
  induction commands generalizing fleet with
  | nil => exact hStart
  | cons command rest ih =>
      exact ih (hStep fleet command hStart)

------------------------------------------------------------
-- Sound Fleets
------------------------------------------------------------

/-
  A fleet is sound with respect to the chart it started with
  if its own chart differs from that one in hooks at most,
  all of its machines walk it, and no attempt had an
  unexpected result.
-/
structure Sound
    (c : Chart G A)
    (fleet : Fleet G A W) : Prop where
  topology : fleet.scene.chart.SameTopology c
  walking : ∀ m ∈ fleet.machines, m.Walks c
  expected :
    ∀ index label result,
      .performed index label result ∈ fleet.reports →
        ExpectedResult label result

theorem launch_sound
    (c : Chart G A)
    (world : W) :
    (launch c world).Sound c where
  topology := rfl
  walking := by simp [launch]
  expected := by simp [launch]

namespace Sound

variable {c : Chart G A}
variable {fleet : Fleet G A W}

/- The machines of a sound fleet walk its own chart. -/
theorem walks
    (hSound : fleet.Sound c)
    {m : Machine}
    (hMember : m ∈ fleet.machines) :
    m.Walks fleet.scene.chart :=
  (hSound.walking m hMember).of_sameTopology
    hSound.topology

/-
  A fleet stays sound if its scene keeps the topology, its
  machines still walk the chart, and its report is not one
  of an unexpected result.
-/
theorem advance
    (hSound : fleet.Sound c)
    {scene : Scene G A W}
    {machines : List Machine}
    {r : Report}
    (hScene :
      scene.chart.SameTopology fleet.scene.chart)
    (hMachines :
      ∀ m ∈ machines, m ∈ fleet.machines ∨ m.Walks c)
    (hReport :
      ∀ index label result,
        r = .performed index label result →
          ExpectedResult label result) :
    Sound c (report ⟨scene, machines, fleet.reports⟩ r) where
  topology := hScene.trans hSound.topology
  walking := by
    intro m hMember
    rcases hMachines m hMember with hOld | hNew
    · exact hSound.walking m hOld
    · exact hNew
  expected := by
    intro index label result hMember
    rcases List.mem_append.mp hMember with hOld | hNew
    · exact hSound.expected index label result hOld
    · exact hReport index label result
        (List.mem_singleton.mp hNew).symm

/- Nothing is lost where only the scene changes. -/
theorem quiet
    (hSound : fleet.Sound c)
    {scene : Scene G A W}
    (hScene :
      scene.chart.SameTopology fleet.scene.chart) :
    Sound c
      (report ⟨scene, fleet.machines, fleet.reports⟩
        .quiet) :=
  hSound.advance hScene (fun _ hOld => Or.inl hOld)
    (fun _ _ _ => nofun)

theorem bind
    (hWell : c.WellFormed)
    (hSound : fleet.Sound c)
    (settings : Settings) :
    (fleet.bind settings).Sound c := by
  unfold Fleet.bind
  cases hBound :
      Machine.bind settings fleet.scene.chart with
  | error fault =>
      exact
        hSound.advance rfl (fun _ hOld => Or.inl hOld)
          (fun _ _ _ => nofun)
  | ok m =>
      refine hSound.advance rfl ?_ (fun _ _ _ => nofun)
      intro m' hMember
      rcases List.mem_append.mp hMember with hOld | hNew
      · exact Or.inl hOld
      · have hWalks : m.Walks fleet.scene.chart :=
          (hWell.of_sameTopology
            hSound.topology).walks_of_bind hBound
        rw [List.mem_singleton.mp hNew]
        exact
          Or.inr
            (hWalks.of_sameTopology hSound.topology.symm)

theorem obey
    (hSound : fleet.Sound c)
    (host : Host G A W)
    {index : Nat}
    {m : Machine}
    (hMachine : fleet.machines[index]? = some m)
    (order : Order) :
    (fleet.obey host index m order).Sound c := by
  have hMember := List.mem_of_getElem? hMachine
  have hWalks := hSound.walks hMember
  have hSet :
      ∀ m', m'.Walks c →
        ∀ m'' ∈ fleet.machines.set index m',
          m'' ∈ fleet.machines ∨ m''.Walks c := by
    intro m' hNew m'' hMember'
    rcases List.mem_or_eq_of_mem_set hMember' with
      hOld | rfl
    · exact Or.inl hOld
    · exact Or.inr hNew
  cases order with
  | perform label =>
      rcases m.perform_conducted host hWalks label with
        ⟨block, hConduct, _⟩
      refine hSound.advance hConduct.sameTopology
        (hSet _ ?_) ?_
      · have hScene :=
          hConduct.sameTopology.trans hSound.topology
        exact
          (hConduct.walks hWalks).of_sameTopology hScene.symm
      · intro index' label' result hReport
        cases hReport
        exact hConduct.expected
  | can label =>
      exact
        hSound.advance
          (m.can_sameTopology host hWalks label)
          (fun _ hOld => Or.inl hOld)
          (fun _ _ _ => nofun)
  | setLogger logger =>
      have hOld := hSound.walking m hMember
      exact
        hSound.advance rfl
          (hSet { m with logger := logger }
            ⟨hOld.registered, hOld.closed⟩)
          (fun _ _ _ => nofun)

/- Whatever is commanded, a sound fleet stays sound. -/
theorem step
    (hWell : c.WellFormed)
    (host : Host G A W)
    (hSound : fleet.Sound c)
    (command : Command G A W) :
    (fleet.step host command).Sound c := by
  cases command with
  | bind settings => exact hSound.bind hWell settings
  | tell index order =>
      simp only [Fleet.step]
      cases hMachine : fleet.machines[index]? with
      | none => exact hSound.quiet rfl
      | some m => exact hSound.obey host hMachine order
  | edit e => exact hSound.quiet (Chart.unhooked_edit _ e)
  | setWorld world => exact hSound.quiet rfl

end Sound

/- Every run of a fleet on a well-formed chart is sound. -/
theorem run_sound
    {c : Chart G A}
    (hWell : c.WellFormed)
    (host : Host G A W)
    (world : W)
    (commands : List (Command G A W)) :
    ((launch c world).run host commands).Sound c :=
  run_invariant (Sound c)
    (fun _ command hSound =>
      hSound.step hWell host command)
    (launch_sound c world) commands

end Fleet

------------------------------------------------------------
-- A Restless Chart
------------------------------------------------------------

/-
  A single state that can be left for itself, but only once:
  its exit action gives it an entry action that fails.
-/
def restless : ScriptedChart :=
  (Chart.empty.connect "on" "on" "spin").edit
    (.exit "on"
      (some [.setEntry (some [.fail "dizzy"])]))

theorem restless_built : restless.Built :=
  (Chart.Built.empty.connect "on" "on" "spin").edit _

/-
  What happens to the restless chart: two machines are bound
  to it, and one of them spins until it is stuck.
-/
def restlessCommands :
    List (Fleet.Command Condition Script Variables) :=
  [ .bind .standard, .bind .standard,
    .tell 0 (.perform "spin"),
    .tell 0 (.perform "jump"),
    .tell 1 (.can "spin") ]

end Statechart
