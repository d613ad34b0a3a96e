import Statechart.Proofs.Chart.Edges
import Statechart.Proofs.Text.Bytes

/-
  This file defines workshops, in which any number of charts
  and of states that belong to no chart yet are built side
  by side, and states that every chart of a workshop is
  tidy, whatever was done there before. Jobs may fail: what
  cannot be done leaves the workshop as it is, except that a
  text is read up to its fault.

  Key definitions include:
    * `Chart.Change`
    * `Job`
    * `Workshop.step`
    * `Workshop.run`
    * `Chart.Tidy`

  Key theorems include:
    * `Chart.Built.change`
    * `Workshop.Sound.step`
    * `Workshop.run_sound`
    * `Workshop.transition?_step_copy`
    * `Workshop.run_tidy`
-/

namespace Statechart

------------------------------------------------------------
-- States That Belong to No Chart
------------------------------------------------------------

namespace State

variable {G A : Type}

/-
  Set or clear a hook of a state on its own, whatever state
  the edit names.
-/
def edit
    (s : State G A) :
    HookEdit G A → State G A
  | .entry _ hook => { s with entry := hook }
  | .exit _ hook => { s with exit := hook }
  | .gate _ label hook =>
      { s with
        transitions :=
          s.transitions.modify label fun t =>
            { t with gate := hook } }
  | .action _ label hook =>
      { s with
        transitions :=
          s.transitions.modify label fun t =>
            { t with action := hook } }

theorem unhooked_edit
    (s : State G A)
    (e : HookEdit G A) :
    (s.edit e).unhooked = s.unhooked := by
  cases e with
  | entry _ hook => rfl
  | exit _ hook => rfl
  | gate _ label hook =>
      exact s.unhooked_modify label fun _ => rfl
  | action _ label hook =>
      exact s.unhooked_modify label fun _ => rfl

end State

------------------------------------------------------------
-- Changes of a Chart
------------------------------------------------------------

namespace Chart

variable {G A : Type}

/- What can be done to a chart without another object. -/
inductive Change (G A : Type) where
  | ensureState (label : String)
  | addTransition (state : String) (t : Transition G A)
  | read (text : String)
  | designate (label : String)
  | edit (e : HookEdit G A)

/-
  Make a change. A text is read up to its first fault, and a
  label that is not registered is not designated.
-/
def change
    (c : Chart G A) :
    Change G A → Chart G A
  | .ensureState label => c.ensureState label
  | .addTransition state t => c.addTransition state t
  | .read text => (c.read text).chart
  | .designate label =>
      match c.designate label with
      | .error _ => c
      | .ok designated => designated
  | .edit e => c.edit e

theorem Built.change
    {c : Chart G A}
    (hBuilt : c.Built)
    (change : Change G A) :
    (c.change change).Built := by
  cases change with
  | ensureState label => exact hBuilt.ensureState label
  | addTransition state t =>
      exact hBuilt.addTransition state t
  | read text => exact hBuilt.read text
  | designate label =>
      simp only [Chart.change]
      split
      · exact hBuilt
      · rename_i hDesignated
        exact hBuilt.designate hDesignated
  | edit e => exact hBuilt.edit e

end Chart

------------------------------------------------------------
-- Workshops
------------------------------------------------------------

/-
  A job of a workshop. Objects are named by their places:
  the charts and the states are numbered separately, in the
  order in which they were made.
-/
inductive Job (G A : Type) where
  | newChart
  | parse (text : String)
  | parseFrom (text initial : String)
  | assemble (calls : List Assembly.Call)
  | cloneChart (chart : Nat)
  | newState (label : String)
  | takeState (chart : Nat) (label : String)
  | cloneState (state : Nat)
  | attach (state : Nat) (t : Transition G A)
  | editState (state : Nat) (e : HookEdit G A)
  | register (state chart : Nat)
  | change (chart : Nat) (change : Chart.Change G A)
  | copy
      (origin : Nat)
      (state label : String)
      (chart : Nat)
      (target : String)

/- The charts and the states that were made so far. -/
structure Workshop (G A : Type) where
  charts : List (Chart G A)
  states : List (State G A)

namespace Workshop

variable {G A : Type}

/- A workshop in which nothing was made yet. -/
def empty : Workshop G A where
  charts := []
  states := []

/- Put a chart into the workshop if it was made. -/
def addChart?
    (w : Workshop G A)
    (made : Option (Chart G A)) : Workshop G A :=
  { w with charts := w.charts ++ made.toList }

/- Put a state into the workshop if it was made. -/
def addState?
    (w : Workshop G A)
    (made : Option (State G A)) : Workshop G A :=
  { w with states := w.states ++ made.toList }

/- Change a chart, if it is there. -/
def changeChart
    (w : Workshop G A)
    (chart : Nat)
    (f : Chart G A → Chart G A) : Workshop G A :=
  { w with charts := w.charts.modify chart f }

/- Change a state, if it is there. -/
def changeState
    (w : Workshop G A)
    (state : Nat)
    (f : State G A → State G A) : Workshop G A :=
  { w with states := w.states.modify state f }

/- The transition of a chart that leaves a state. -/
def transition?
    (w : Workshop G A)
    (chart : Nat)
    (state label : String) :
    Option (Transition G A) :=
  w.charts[chart]?.bind (·.transition? state label)

/- Do a job. -/
def step
    (w : Workshop G A) :
    Job G A → Workshop G A
  | .newChart => w.addChart? (some .empty)
  | .parse text => w.addChart? (Chart.ofRules text).toOption
  | .parseFrom text initial =>
      w.addChart? (Chart.ofRulesFrom text initial).toOption
  | .assemble calls =>
      w.addChart? (Assembly.ofCalls calls).build.toOption
  | .cloneChart chart => w.addChart? w.charts[chart]?
  | .newState label => w.addState? (some (.plain label))
  | .takeState chart label =>
      w.addState? (w.charts[chart]?.bind (·.state? label))
  | .cloneState state => w.addState? w.states[state]?
  | .attach state t => w.changeState state (·.attach t)
  | .editState state e => w.changeState state (·.edit e)
  | .register state chart =>
      match w.states[state]? with
      | none => w
      | some s => w.changeChart chart (·.addState s)
  | .change chart change =>
      w.changeChart chart (·.change change)
  | .copy origin state label chart target =>
      match w.transition? origin state label with
      | none => w
      | some t =>
          w.changeChart chart (·.addTransition target t)

/- Do jobs in order. -/
def run (jobs : List (Job G A)) : Workshop G A :=
  jobs.foldl step empty

------------------------------------------------------------
-- Sound Workshops
------------------------------------------------------------

/- Everything in a sound workshop was built. -/
structure Sound (w : Workshop G A) : Prop where
  charts : ∀ c ∈ w.charts, c.Built
  states : ∀ s ∈ w.states, s.Built

theorem eq_ok_of_toOption
    {ε α : Type}
    {result : Except ε α}
    {x : α}
    (hResult : result.toOption = some x) :
    result = .ok x := by
  cases result with
  | error e => cases hResult
  | ok y =>
      cases hResult
      rfl

/- A property survives a change of one element. -/
theorem forall_mem_modify
    {α : Type}
    {P : α → Prop}
    {list : List α}
    {f : α → α}
    (hList : ∀ x ∈ list, P x)
    (hKeeps : ∀ x, P x → P (f x))
    (index : Nat) :
    ∀ x ∈ list.modify index f, P x := by
  intro x hMember
  rcases List.mem_iff_getElem?.mp hMember with
    ⟨place, hPlace⟩
  rw [List.getElem?_modify] at hPlace
  rcases Option.map_eq_some_iff.mp hPlace with
    ⟨y, hFound, rfl⟩
  have hOld := hList y (List.mem_of_getElem? hFound)
  split
  · exact hKeeps y hOld
  · exact hOld

namespace Sound

variable {w : Workshop G A}

theorem empty : (Workshop.empty : Workshop G A).Sound where
  charts := by simp [Workshop.empty]
  states := by simp [Workshop.empty]

theorem chart
    (hSound : w.Sound)
    {chart : Nat}
    {c : Chart G A}
    (hFound : w.charts[chart]? = some c) :
    c.Built :=
  hSound.charts c (List.mem_of_getElem? hFound)

theorem state
    (hSound : w.Sound)
    {state : Nat}
    {s : State G A}
    (hFound : w.states[state]? = some s) :
    s.Built :=
  hSound.states s (List.mem_of_getElem? hFound)

theorem addChart?
    (hSound : w.Sound)
    {made : Option (Chart G A)}
    (hMade : ∀ c, made = some c → c.Built) :
    (w.addChart? made).Sound where
  charts := by
    intro c hMember
    rcases List.mem_append.mp hMember with hOld | hNew
    · exact hSound.charts c hOld
    · exact hMade c (Option.mem_toList.mp hNew)
  states := hSound.states

theorem addState?
    (hSound : w.Sound)
    {made : Option (State G A)}
    (hMade : ∀ s, made = some s → s.Built) :
    (w.addState? made).Sound where
  charts := hSound.charts
  states := by
    intro s hMember
    rcases List.mem_append.mp hMember with hOld | hNew
    · exact hSound.states s hOld
    · exact hMade s (Option.mem_toList.mp hNew)

theorem changeChart
    (hSound : w.Sound)
    (chart : Nat)
    {f : Chart G A → Chart G A}
    (hKeeps : ∀ c, c.Built → (f c).Built) :
    (w.changeChart chart f).Sound where
  charts := forall_mem_modify hSound.charts hKeeps chart
  states := hSound.states

theorem changeState
    (hSound : w.Sound)
    (state : Nat)
    {f : State G A → State G A}
    (hKeeps : ∀ s, s.Built → (f s).Built) :
    (w.changeState state f).Sound where
  charts := hSound.charts
  states := forall_mem_modify hSound.states hKeeps state

/- Every job keeps a workshop sound. -/
theorem step
    (hSound : w.Sound)
    (job : Job G A) :
    (w.step job).Sound := by
  cases job with
  | newChart =>
      apply hSound.addChart?
      intro c hMade
      cases hMade
      exact .empty
  | parse text =>
      apply hSound.addChart?
      intro c hMade
      exact .of_ofRules (eq_ok_of_toOption hMade)
  | parseFrom text initial =>
      apply hSound.addChart?
      intro c hMade
      exact .of_build (eq_ok_of_toOption hMade)
  | assemble calls =>
      apply hSound.addChart?
      intro c hMade
      exact .of_build (eq_ok_of_toOption hMade)
  | cloneChart chart =>
      apply hSound.addChart?
      intro c hMade
      exact hSound.chart hMade
  | newState label =>
      apply hSound.addState?
      intro s hMade
      cases hMade
      exact .plain label
  | takeState chart label =>
      apply hSound.addState?
      intro s hMade
      rcases Option.bind_eq_some_iff.mp hMade with
        ⟨c, hChart, hState⟩
      exact (hSound.chart hChart).of_state? hState
  | cloneState state =>
      apply hSound.addState?
      intro s hMade
      exact hSound.state hMade
  | attach state t =>
      apply hSound.changeState
      intro s hBuilt
      exact hBuilt.attach t
  | editState state e =>
      apply hSound.changeState
      intro s hBuilt
      exact hBuilt.rehook (s.unhooked_edit e)
  | register state chart =>
      simp only [Workshop.step]
      split
      · exact hSound
      · rename_i s hState
        apply hSound.changeChart
        intro c hBuilt
        exact hBuilt.addState (hSound.state hState)
  | change chart change =>
      apply hSound.changeChart
      intro c hBuilt
      exact hBuilt.change change
  | copy origin state label chart target =>
      simp only [Workshop.step]
      split
      · exact hSound
      · apply hSound.changeChart
        intro c hBuilt
        exact hBuilt.addTransition target _

/- And so do many jobs. -/
theorem steps
    (hSound : w.Sound)
    (jobs : List (Job G A)) :
    (jobs.foldl Workshop.step w).Sound := by
  induction jobs generalizing w with
  | nil => exact hSound
  | cons job jobs ih => exact ih (hSound.step job)

end Sound

theorem run_sound
    (jobs : List (Job G A)) :
    (run jobs).Sound :=
  Sound.empty.steps jobs

------------------------------------------------------------
-- Copies of Transitions
------------------------------------------------------------

/-
  A copy of a transition leaves the state that it was given
  to. Nothing else changes, neither in the same chart nor in
  any other one.
-/
theorem transition?_step_copy
    {w : Workshop G A}
    (hSound : w.Sound)
    {origin chart : Nat}
    {state label target : String}
    {t : Transition G A}
    {c : Chart G A}
    (hFound : w.transition? origin state label = some t)
    (hChart : w.charts[chart]? = some c)
    (hTarget : c.hasState target = true)
    (other : Nat)
    (owner name : String) :
    (w.step
        (.copy origin state label chart target)).transition?
        other owner name =
      if other = chart ∧ owner = target ∧ name = label then
        some { t with source := some target }
      else
        w.transition? other owner name := by
  have hLabel : t.label = label := by
    rcases Option.bind_eq_some_iff.mp hFound with
      ⟨d, hOrigin, hTransition⟩
    have hWell := (hSound.chart hOrigin).wellFormed
    exact (hWell.transition?_fields hTransition).1
  rcases c.hasState_iff.mp hTarget with ⟨s, hState⟩
  have hWell := (hSound.chart hChart).wellFormed
  have hOwner := hWell.labelled hState
  -- Only one chart of the workshop changes.
  simp only [step, hFound]
  unfold transition? changeChart
  simp only [List.getElem?_modify]
  by_cases hOther : other = chart
  · subst hOther
    have hCopied :=
      Chart.transition?_addTransition hState t owner name
    simp [hChart, hCopied, hOwner, hLabel, eq_comm]
  · have hSame : chart ≠ other := fun hEq => hOther hEq.symm
    cases w.charts[other]? <;> simp [hOther, hSame]

end Workshop

------------------------------------------------------------
-- Tidy Charts
------------------------------------------------------------

/-
  A chart is tidy if

    * states and transitions are stored under their own
      labels, and a transition names the state that owns it
      as its source,
    * the list of states holds the stored states, and the
      list of transitions of each of them holds its stored
      transitions, both in strictly ascending order of the
      bytes of their labels,
    * there is an initial label exactly if there is a state,
      and then it is the label of one.
-/
structure Chart.Tidy
    {G A : Type}
    (c : Chart G A) : Prop where
  labelled :
    ∀ label s, c.state? label = some s → s.label = label
  attached :
    ∀ state label t,
      c.transition? state label = some t →
        t.label = label ∧ t.source = some state
  states :
    ∀ s, s ∈ c.stateList ↔ c.state? s.label = some s
  statesAscending :
    (c.stateList.map fun s =>
      Text.bytes s.label).Pairwise (· < ·)
  transitions :
    ∀ s ∈ c.stateList,
      ∀ t,
        t ∈ s.transitions.values ↔
          c.transition? s.label t.label = some t
  transitionsAscending :
    ∀ s ∈ c.stateList,
      (s.transitions.values.map fun t =>
        Text.bytes t.label).Pairwise (· < ·)
  started : c.initial ≠ none ↔ c.stateList ≠ []
  initial :
    ∀ label,
      c.initial = some label →
        ∃ s, c.initialState? = some s ∧ s.label = label

namespace Chart.WellFormed

variable {G A : Type}
variable {c : Chart G A}

theorem tidy
    (hWell : c.WellFormed) :
    c.Tidy where
  labelled _ _ := hWell.labelled
  attached _ _ _ := hWell.transition?_fields
  states _ := hWell.mem_stateList_iff_label
  statesAscending := by
    rw [List.pairwise_map]
    exact
      hWell.stateList_ascending.imp Text.bytes_lt_iff.mpr
  transitions := by
    intro s hMember t
    have hState := hWell.mem_stateList_iff_label.mp hMember
    have hLookup :
        c.transition? s.label t.label =
          s.transition? t.label := by
      simp only [transition?, hState]
    rw [hLookup, LabelMap.mem_values_iff]
    constructor
    · rintro ⟨label, hFound⟩
      have hFields :=
        hWell.of_mem_stateList hMember label t hFound
      rw [hFields.1]
      exact hFound
    · exact fun hFound => ⟨t.label, hFound⟩
  transitionsAscending := by
    intro s hMember
    have hState := hWell.of_mem_stateList hMember
    rw [List.pairwise_map]
    exact
      hState.transitions_ascending.imp Text.bytes_lt_iff.mpr
  started := not_congr hWell.stateList_eq_nil_iff.symm
  initial := by
    intro label hInitial
    rw [← hWell.map_label_initialState?] at hInitial
    exact Option.map_eq_some_iff.mp hInitial

end Chart.WellFormed

namespace Workshop

variable {G A : Type}

/-
  Whatever was done in a workshop, its charts are tidy. A
  transition that is copied to a state, be it of the same
  chart or of another one, leaves that state and is stored
  there under its label; the original and all other
  transitions stay as they are.
-/
theorem run_tidy
    (jobs : List (Job G A)) :
    let w := run jobs
    (∀ c ∈ w.charts, c.Tidy) ∧
      ∀ origin state label t chart c target,
        w.transition? origin state label = some t →
          w.charts[chart]? = some c →
            c.hasState target = true →
              let w' :=
                w.step (.copy origin state label chart target)
              w'.transition? chart target label =
                  some { t with source := some target } ∧
                ∀ other owner name,
                  (other, owner, name) ≠
                      (chart, target, label) →
                    w'.transition? other owner name =
                      w.transition? other owner name := by
  intro w
  have hSound : w.Sound := run_sound jobs
  constructor
  · intro c hMember
    exact (hSound.charts c hMember).wellFormed.tidy
  · intro origin state label t chart c target hFound hChart
      hTarget w'
    have hCopied :=
      transition?_step_copy hSound hFound hChart hTarget
    constructor
    · rw [hCopied, if_pos ⟨rfl, rfl, rfl⟩]
    · intro other owner name hOther
      rw [hCopied, if_neg]
      rintro ⟨rfl, rfl, rfl⟩
      exact hOther rfl

/- A chart that is read up to a fault, and a clone of it. -/
def faultyJobs : List (Job Unit Unit) :=
  [ .newState "b", .attach 0 (.plain "go" "a"), .newChart,
    .register 0 0, .change 0 (.read "a -> b (up); oops"),
    .cloneChart 0 ]

/- A transition of the chart is copied into the clone. -/
theorem run_tidy_faulty :
    let w := run faultyJobs
    let w' := w.step (.copy 0 "a" "up" 1 "b")
    w.charts.length = 2 ∧
      (∀ c ∈ w.charts, c.Tidy) ∧
      (w.transition? 0 "a" "up").map Transition.source =
        some (some "a") ∧
      (w'.transition? 1 "b" "up").map Transition.source =
        some (some "b") ∧
      w'.transition? 0 "a" "up" =
        w.transition? 0 "a" "up" := by
  intro w w'
  rcases run_tidy faultyJobs with ⟨hTidy, hCopies⟩
  rcases hCopies 0 "a" "up" _ 1 _ "b" rfl rfl rfl with
    ⟨hCopied, hOthers⟩
  refine ⟨rfl, hTidy, rfl, ?_, hOthers 0 "a" "up" ?_⟩
  · rw [hCopied]
    rfl
  · simp

end Workshop

end Statechart
