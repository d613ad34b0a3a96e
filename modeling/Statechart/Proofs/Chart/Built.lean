import Statechart.Chart.Assembly
import Statechart.Proofs.Chart.Lookup
import Statechart.Proofs.Chart.Topology

/-
  This file defines which states and charts can be built,
  and shows that whatever is built is well-formed: states
  and transitions are stored under their own labels, a
  transition names the state that owns it as its source, and
  there is an initial state as soon as there is a state.

  Reading rule texts, assembling charts and copying states
  and transitions give nothing that cannot be built.

  Key definitions include:
    * `State.Built`
    * `State.WellFormed`
    * `Chart.Built`
    * `Chart.WellFormed`

  Key theorems include:
    * `Chart.WellFormed.of_sameTopology`
    * `Chart.eq_read_of_ofRules`
    * `Chart.Built.wellFormed`
    * `Chart.Built.read`
    * `Chart.Built.of_build`
-/

namespace Statechart

------------------------------------------------------------
-- Well-Formed States
------------------------------------------------------------

namespace State

variable {G A : Type}

/-
  A state is well-formed if its transitions are stored under
  their own labels and name it as their source.
-/
def WellFormed (s : State G A) : Prop :=
  ∀ label t,
    s.transition? label = some t →
      t.label = label ∧ t.source = some s.label

/-
  States that can be built outside of a chart. They start
  without transitions, any transition can be attached to
  them, whatever its source was before, and their hooks can
  be set and cleared.
-/
inductive Built : State G A → Prop where
  | plain (label : String) :
      Built (State.plain label)
  | attach
      {s : State G A}
      (t : Transition G A)
      (hBuilt : Built s) :
      Built (s.attach t)
  | rehook
      {s s' : State G A}
      (hBuilt : Built s)
      (hSame : s'.unhooked = s.unhooked) :
      Built s'

theorem WellFormed.of_unhooked_eq
    {s s' : State G A}
    (hWell : s.WellFormed)
    (hSame : s'.unhooked = s.unhooked) :
    s'.WellFormed := by
  intro label t hFound
  have hEq : s'.label = s.label :=
    label_eq_of_unhooked_eq hSame
  have hLookup :
      (s.transition? label).map Transition.unhooked =
        some t.unhooked := by
    rw [← transition?_unhooked, ← hSame,
      transition?_unhooked, hFound]
    rfl
  rcases Option.map_eq_some_iff.mp hLookup with
    ⟨t', hFound', hUnhooked⟩
  rcases hWell _ _ hFound' with ⟨hLabel, hSource⟩
  rcases Transition.fields_eq_of_unhooked_eq hUnhooked with
    ⟨hLabels, hSources, _⟩
  exact
    ⟨hLabels.symm.trans hLabel,
      hEq ▸ hSources.symm.trans hSource⟩

theorem WellFormed.attach
    {s : State G A}
    (hWell : s.WellFormed)
    (t : Transition G A) :
    (s.attach t).WellFormed := by
  intro label t' hFound
  rw [transition?_attach] at hFound
  by_cases hLabel : t.label = label
  · rw [if_pos hLabel] at hFound
    cases hFound
    exact ⟨hLabel, rfl⟩
  · rw [if_neg hLabel] at hFound
    exact hWell _ _ hFound

theorem Built.wellFormed
    {s : State G A}
    (hBuilt : s.Built) :
    s.WellFormed := by
  induction hBuilt with
  | plain label =>
      intro other t hFound
      simp at hFound
  | attach t _ ih => exact ih.attach t
  | rehook _ hSame ih => exact ih.of_unhooked_eq hSame

end State

------------------------------------------------------------
-- Well-Formed Charts
------------------------------------------------------------

namespace Chart

variable {G A : Type}

/-
  A chart is well-formed if its states are stored under
  their own labels, each of them is well-formed, the initial
  label is the label of a state, and there is an initial
  label unless there are no states.
-/
structure WellFormed (c : Chart G A) : Prop where
  labelled :
    ∀ {label : String} {s : State G A},
      c.state? label = some s → s.label = label
  attached :
    ∀ {label : String} {s : State G A},
      c.state? label = some s → s.WellFormed
  registered :
    ∀ {label : String},
      c.initial = some label → c.hasState label = true
  started :
    ∀ {label : String},
      c.hasState label = true → c.initial ≠ none

/-
  Charts that can be built from the empty chart: states are
  added, replaced and created on demand, transitions are
  attached to registered states, a registered state is made
  the initial one, and hooks are set and cleared.
-/
inductive Built : Chart G A → Prop where
  | empty :
      Built Chart.empty
  | addState
      {c : Chart G A}
      {s : State G A}
      (hBuilt : Built c)
      (hState : s.Built) :
      Built (c.addState s)
  | ensureState
      {c : Chart G A}
      (label : String)
      (hBuilt : Built c) :
      Built (c.ensureState label)
  | addTransition
      {c : Chart G A}
      (state : String)
      (t : Transition G A)
      (hBuilt : Built c) :
      Built (c.addTransition state t)
  | designate
      {c d : Chart G A}
      {label : String}
      (hBuilt : Built c)
      (hDesignated : c.designate label = .ok d) :
      Built d
  | edit
      {c : Chart G A}
      (e : HookEdit G A)
      (hBuilt : Built c) :
      Built (c.edit e)

------------------------------------------------------------
-- Operations on Well-Formed Charts
------------------------------------------------------------

namespace WellFormed

variable {c d : Chart G A}

/- The label and the source of a transition are known. -/
theorem transition?_fields
    (hWell : c.WellFormed)
    {state label : String}
    {t : Transition G A}
    (hFound : c.transition? state label = some t) :
    t.label = label ∧ t.source = some state := by
  rcases c.transition?_eq_some_iff.mp hFound with
    ⟨s, hState, hTransition⟩
  rw [← hWell.labelled hState]
  exact hWell.attached hState _ _ hTransition

/- The initial state is registered under its own label. -/
theorem map_label_initialState?
    (hWell : c.WellFormed) :
    c.initialState?.map State.label = c.initial := by
  unfold initialState?
  cases hInitial : c.initial with
  | none => rfl
  | some label =>
      have hState := hWell.registered hInitial
      rcases c.hasState_iff.mp hState with ⟨s, hFound⟩
      simp [hFound, hWell.labelled hFound]

theorem of_sameTopology
    (hWell : c.WellFormed)
    (hSame : d.SameTopology c) :
    d.WellFormed := by
  have hStates :
      ∀ {label : String} {s : State G A},
        d.state? label = some s →
          ∃ s', c.state? label = some s' ∧
            s'.unhooked = s.unhooked := by
    intro label s hFound
    have hLookup :
        (c.state? label).map State.unhooked =
          some s.unhooked := by
      rw [← state?_unhooked, ← hSame, state?_unhooked,
        hFound]
      rfl
    exact Option.map_eq_some_iff.mp hLookup
  have hInitial := hSame.initial_eq
  refine ⟨?_, ?_, ?_, ?_⟩
  · intro label s hFound
    rcases hStates hFound with ⟨s', hFound', hUnhooked⟩
    exact
      (State.label_eq_of_unhooked_eq hUnhooked).symm.trans
        (hWell.labelled hFound')
  · intro label s hFound
    rcases hStates hFound with ⟨s', hFound', hUnhooked⟩
    exact
      (hWell.attached hFound').of_unhooked_eq hUnhooked.symm
  · intro label hLabel
    rw [hSame.hasState_eq]
    exact hWell.registered (hInitial ▸ hLabel)
  · intro label hState
    rw [hSame.hasState_eq] at hState
    exact hInitial ▸ hWell.started hState

theorem empty : (Chart.empty : Chart G A).WellFormed := by
  refine ⟨?_, ?_, ?_, ?_⟩
  · intro label s hFound
    simp at hFound
  · intro label s hFound
    simp at hFound
  · intro label hLabel
    simp [Chart.empty] at hLabel
  · intro label hState
    simp at hState

theorem addState
    (hWell : c.WellFormed)
    {s : State G A}
    (hState : s.WellFormed) :
    (c.addState s).WellFormed := by
  refine ⟨?_, ?_, ?_, ?_⟩
  · intro label s' hFound
    rw [state?_addState] at hFound
    split at hFound
    · rename_i hLabel
      cases hFound
      exact hLabel
    · exact hWell.labelled hFound
  · intro label s' hFound
    rw [state?_addState] at hFound
    split at hFound
    · cases hFound
      exact hState
    · exact hWell.attached hFound
  · intro label hLabel
    rw [hasState_addState_iff]
    unfold Chart.addState initialOr at hLabel
    cases hInitial : c.initial with
    | none =>
        simp only [hInitial, Option.some.injEq] at hLabel
        exact Or.inl hLabel
    | some designated =>
        simp only [hInitial, Option.some.injEq] at hLabel
        exact Or.inr (hWell.registered (hLabel ▸ hInitial))
  · intro label _
    unfold Chart.addState initialOr
    cases c.initial <;> simp

theorem ensureState
    (hWell : c.WellFormed)
    (label : String) :
    (c.ensureState label).WellFormed := by
  unfold Chart.ensureState
  split
  · exact hWell
  · exact hWell.addState (State.Built.plain label).wellFormed

theorem addTransition
    (hWell : c.WellFormed)
    (state : String)
    (t : Transition G A) :
    (c.addTransition state t).WellFormed := by
  refine ⟨?_, ?_, ?_, ?_⟩
  · intro label s hFound
    rw [state?_addTransition] at hFound
    split at hFound
    · rcases Option.map_eq_some_iff.mp hFound with
        ⟨s', hFound', rfl⟩
      rw [State.attach_label]
      exact hWell.labelled hFound'
    · exact hWell.labelled hFound
  · intro label s hFound
    rw [state?_addTransition] at hFound
    split at hFound
    · rcases Option.map_eq_some_iff.mp hFound with
        ⟨s', hFound', rfl⟩
      exact (hWell.attached hFound').attach t
    · exact hWell.attached hFound
  · intro label hLabel
    rw [hasState_addTransition]
    exact hWell.registered hLabel
  · intro label hState
    rw [hasState_addTransition] at hState
    exact hWell.started hState

theorem designate
    (hWell : c.WellFormed)
    {label : String}
    (hDesignated : c.designate label = .ok d) :
    d.WellFormed := by
  rcases designate_eq_ok_iff.mp hDesignated with
    ⟨hState, rfl⟩
  refine ⟨hWell.labelled, hWell.attached, ?_, ?_⟩
  · intro other hOther
    cases hOther
    exact hState
  · intro other _
    simp

theorem edit
    (hWell : c.WellFormed)
    (e : HookEdit G A) :
    (c.edit e).WellFormed :=
  hWell.of_sameTopology (c.unhooked_edit e)

theorem connect
    (hWell : c.WellFormed)
    (source destination label : String) :
    (c.connect source destination label).WellFormed :=
  ((hWell.ensureState source).ensureState
    destination).addTransition source _

end WellFormed

------------------------------------------------------------
-- Built Charts
------------------------------------------------------------

/- The chart of a text is what reading leaves. -/
theorem eq_read_of_ofRules
    {c : Chart G A}
    {text : String}
    (hRead : ofRules text = .ok c) :
    c = ((Chart.empty : Chart G A).read text).chart := by
  unfold ofRules at hRead
  simp only at hRead
  split at hRead
  · cases hRead
  · cases hRead
    rfl

namespace Built

variable {c d : Chart G A}

theorem wellFormed
    (hBuilt : c.Built) :
    c.WellFormed := by
  induction hBuilt with
  | empty => exact WellFormed.empty
  | addState _ hState ih =>
      exact ih.addState hState.wellFormed
  | ensureState label _ ih => exact ih.ensureState label
  | addTransition state t _ ih =>
      exact ih.addTransition state t
  | designate _ hDesignated ih =>
      exact ih.designate hDesignated
  | edit e _ ih => exact ih.edit e

/-
  A state of a chart that can be built can be built on its
  own, so a copy of it can be added to any chart.
-/
theorem of_state?
    (hBuilt : c.Built)
    {label : String}
    {s : State G A}
    (hFound : c.state? label = some s) :
    s.Built := by
  induction hBuilt generalizing label s with
  | empty => simp at hFound
  | addState _ hState ih =>
      rw [state?_addState] at hFound
      split at hFound
      · cases hFound
        exact hState
      · exact ih hFound
  | ensureState created _ ih =>
      rw [state?_ensureState] at hFound
      split at hFound
      · cases hFound
        exact State.Built.plain label
      · exact ih hFound
  | addTransition state t _ ih =>
      rw [state?_addTransition] at hFound
      split at hFound
      · rcases Option.map_eq_some_iff.mp hFound with
          ⟨s', hFound', rfl⟩
        exact State.Built.attach t (ih hFound')
      · exact ih hFound
  | designate _ hDesignated ih =>
      rcases designate_eq_ok_iff.mp hDesignated with
        ⟨_, rfl⟩
      exact ih hFound
  | @edit c e _ ih =>
      have hLookup :
          (c.state? label).map State.unhooked =
            some s.unhooked := by
        rw [← state?_unhooked, ← unhooked_edit c e,
          state?_unhooked, hFound]
        rfl
      rcases Option.map_eq_some_iff.mp hLookup with
        ⟨s', hFound', hUnhooked⟩
      exact State.Built.rehook (ih hFound') hUnhooked.symm

theorem editAll
    (hBuilt : c.Built)
    (edits : List (HookEdit G A)) :
    (c.editAll edits).Built := by
  unfold Chart.editAll
  induction edits generalizing c with
  | nil => exact hBuilt
  | cons e rest ih => exact ih (Built.edit e hBuilt)

theorem copyTransition?
    (hBuilt : c.Built)
    {state label target : String}
    (hCopied :
      c.copyTransition? state label target = some d) :
    d.Built := by
  unfold Chart.copyTransition? at hCopied
  split at hCopied
  · cases hCopied
  · split at hCopied
    · cases hCopied
      exact Built.addTransition target _ hBuilt
    · cases hCopied

theorem copyState?
    {origin : Chart G A}
    (hBuilt : c.Built)
    (hOrigin : origin.Built)
    {label : String}
    (hCopied : c.copyState? origin label = some d) :
    d.Built := by
  unfold Chart.copyState? at hCopied
  split at hCopied
  · cases hCopied
  · rename_i s hFound
    cases hCopied
    exact Built.addState hBuilt (hOrigin.of_state? hFound)

theorem connect
    (hBuilt : c.Built)
    (source destination label : String) :
    (c.connect source destination label).Built :=
  Built.addTransition source _
    (Built.ensureState destination
      (Built.ensureState source hBuilt))

theorem readFrom
    (hBuilt : c.Built)
    (applied : Nat)
    (statements : List String) :
    (c.readFrom applied statements).chart.Built := by
  induction statements generalizing applied c with
  | nil => exact hBuilt
  | cons statement rest ih =>
      unfold Chart.readFrom
      split
      · exact hBuilt
      · exact ih (hBuilt.connect _ _ _) (applied + 1)

/- Reading a text builds a chart, whether it fails or not. -/
theorem read
    (hBuilt : c.Built)
    (text : String) :
    (c.read text).chart.Built :=
  hBuilt.readFrom 0 _

theorem of_ofRules
    {text : String}
    (hRead : Chart.ofRules text = .ok c) :
    c.Built := by
  rw [eq_read_of_ofRules hRead]
  exact Built.empty.read text

theorem addParts
    (hBuilt : c.Built)
    {parts : List Assembly.Part}
    (hAdded : Assembly.addParts c parts = .ok d) :
    d.Built := by
  induction parts generalizing c with
  | nil =>
      cases hAdded
      exact hBuilt
  | cons p rest ih =>
      unfold Assembly.addParts at hAdded
      split at hAdded
      · cases hAdded
      · rename_i next hPart
        refine ih ?_ hAdded
        cases p with
        | state label =>
            cases hPart
            exact Built.ensureState label hBuilt
        | transition origin label target =>
            cases hPart
            exact hBuilt.connect origin target label
        | rules text =>
            simp only [Assembly.addPart] at hPart
            split at hPart
            · cases hPart
            · cases hPart
              exact hBuilt.read text

/- Assembling a chart gives one that can be built. -/
theorem of_build
    {a : Assembly}
    (hAssembled : a.build = .ok c) :
    c.Built := by
  unfold Assembly.build at hAssembled
  split at hAssembled
  · cases hAssembled
  · rename_i d hAdded
    have hParts : d.Built := Built.empty.addParts hAdded
    unfold Assembly.finish at hAssembled
    split at hAssembled
    · cases hAssembled
    · split at hAssembled
      · cases hAssembled
        exact hParts
      · split at hAssembled
        · cases hAssembled
        · rename_i hDesignated
          cases hAssembled
          exact Built.designate hParts hDesignated

end Built

end Chart

end Statechart
