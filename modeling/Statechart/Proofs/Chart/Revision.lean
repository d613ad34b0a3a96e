import Statechart.Proofs.Chart.Assembly
import Statechart.Proofs.Chart.Workshop

/-
  This file defines revisions, which are what can be done to
  a single chart from the empty one on, and states what they
  make of the initial state: the last label that could be
  designated is initial, or else the first label that was
  ever registered, in whichever way that happened.

  Key definitions include:
    * `Chart.Revision`
    * `Chart.Revision.mentions`
    * `Chart.Revision.designated?`
    * `Chart.reviseAll`
    * `Chart.designations`

  Key theorems include:
    * `Chart.WellFormed.initial_revise`
    * `Chart.hasState_reviseAll_iff`
    * `Chart.WellFormed.initial_reviseAll`
    * `Chart.initial_of_revisions`
-/

namespace Statechart

namespace Chart

variable {G A : Type}

------------------------------------------------------------
-- Revisions
------------------------------------------------------------

/-
  A revision registers a state, which replaces a state with
  the same label, or changes the chart in another way.
-/
inductive Revision (G A : Type) where
  | register (s : State G A) (hBuilt : s.Built)
  | change (change : Change G A)

namespace Revision

/-
  The labels that a revision registers where they are not
  registered yet, in order. Of a text, these are the ends of
  its rules up to the first statement that is not one.
-/
def mentions : Revision G A → List String
  | .register s _ => [s.label]
  | .change (.ensureState label) =>
      (Assembly.Part.state label).mentions
  | .change (.read text) =>
      (Assembly.Part.rules text).mentions
  | .change _ => []

/- The label that a revision succeeds in designating. -/
def designated?
    (c : Chart G A) :
    Revision G A → Option String
  | .change (.designate label) =>
      match c.designate label with
      | .error _ => none
      | .ok _ => some label
  | _ => none

end Revision

/- Make a revision. -/
def revise
    (c : Chart G A) :
    Revision G A → Chart G A
  | .register s _ => c.addState s
  | .change change => c.change change

/- Make revisions in order. -/
def reviseAll
    (c : Chart G A)
    (revisions : List (Revision G A)) : Chart G A :=
  revisions.foldl revise c

/- The labels that revisions designate, in order. -/
def designations
    (c : Chart G A) :
    List (Revision G A) → List String
  | [] => []
  | r :: rest =>
      (r.designated? c).toList ++
        designations (c.revise r) rest

------------------------------------------------------------
-- One Revision
------------------------------------------------------------

section Revising

variable {c : Chart G A}

/- A text is read like a part of an assembly is placed. -/
theorem chart_read_eq_place
    (c : Chart G A)
    (text : String) :
    (c.read text).chart =
      Assembly.Part.place c (.rules text) :=
  congrArg Reading.chart (c.read_eq text)

theorem WellFormed.revise
    (hWell : c.WellFormed)
    (r : Revision G A) :
    (c.revise r).WellFormed := by
  cases r with
  | register s hBuilt =>
      exact hWell.addState hBuilt.wellFormed
  | change change =>
      cases change with
      | ensureState label => exact hWell.ensureState label
      | addTransition state t =>
          exact hWell.addTransition state t
      | read text =>
          simp only [Chart.revise, Chart.change,
            chart_read_eq_place]
          exact Assembly.Part.place_wellFormed hWell _
      | designate label =>
          simp only [Chart.revise, Chart.change]
          split
          · exact hWell
          · rename_i hDesignated
            exact hWell.designate hDesignated
      | edit e => exact hWell.edit e

/- A revision registers what it mentions, and no more. -/
theorem hasState_revise_iff
    (c : Chart G A)
    (r : Revision G A)
    {state : String} :
    (c.revise r).hasState state = true ↔
      c.hasState state = true ∨ state ∈ r.mentions := by
  cases r with
  | register s hBuilt =>
      simp only [revise, Revision.mentions,
        hasState_addState_iff, List.mem_singleton]
      rw [or_comm, @eq_comm _ s.label]
  | change change =>
      cases change with
      | ensureState label =>
          exact Assembly.Part.hasState_place_iff c
            (.state label)
      | addTransition owner t =>
          simp [revise, Chart.change, Revision.mentions]
      | read text =>
          simp only [revise, Chart.change,
            chart_read_eq_place]
          exact Assembly.Part.hasState_place_iff c _
      | designate label =>
          simp only [revise, Chart.change]
          split
          · simp [Revision.mentions]
          · rename_i hDesignated
            rcases designate_eq_ok_iff.mp hDesignated with
              ⟨_, rfl⟩
            simp [Revision.mentions, hasState]
      | edit e =>
          have hSame : (c.edit e).SameTopology c :=
            c.unhooked_edit e
          simp [revise, Chart.change, Revision.mentions,
            hSame.hasState_eq]

/-
  A revision designates a label, or registers the first one
  where there was none, or leaves the initial label alone.
-/
theorem WellFormed.initial_revise
    (hWell : c.WellFormed)
    (r : Revision G A) :
    (c.revise r).initial =
      (r.designated? c).or
        (c.initial.or r.mentions.head?) := by
  cases r with
  | register s hBuilt =>
      simp only [Chart.revise, Chart.addState, initialOr,
        Revision.designated?, Revision.mentions]
      cases c.initial <;> rfl
  | change change =>
      cases change with
      | ensureState label =>
          exact Assembly.Part.initial_place hWell
            (.state label)
      | addTransition owner t =>
          simp [Chart.revise, Chart.change,
            Revision.designated?, Revision.mentions]
      | read text =>
          simp only [Chart.revise, Chart.change,
            chart_read_eq_place]
          exact Assembly.Part.initial_place hWell _
      | designate label =>
          simp only [Chart.revise, Chart.change,
            Revision.designated?, Revision.mentions]
          cases hDesignated : c.designate label with
          | error e => simp
          | ok d =>
              rcases designate_eq_ok_iff.mp hDesignated with
                ⟨_, rfl⟩
              rfl
      | edit e =>
          have hSame : (c.edit e).SameTopology c :=
            c.unhooked_edit e
          simp [Chart.revise, Chart.change,
            Revision.designated?, Revision.mentions,
            hSame.initial_eq]

end Revising

------------------------------------------------------------
-- Several Revisions
------------------------------------------------------------

section RevisingAll

variable {c : Chart G A}

theorem reviseAll_cons
    (c : Chart G A)
    (r : Revision G A)
    (rest : List (Revision G A)) :
    c.reviseAll (r :: rest) =
      (c.revise r).reviseAll rest :=
  rfl

theorem WellFormed.reviseAll
    (hWell : c.WellFormed)
    (revisions : List (Revision G A)) :
    (c.reviseAll revisions).WellFormed := by
  induction revisions generalizing c with
  | nil => exact hWell
  | cons r rest ih => exact ih (hWell.revise r)

/- Revisions register all that any of them mentions. -/
theorem hasState_reviseAll_iff
    (c : Chart G A)
    (revisions : List (Revision G A))
    {state : String} :
    (c.reviseAll revisions).hasState state = true ↔
      c.hasState state = true ∨
        state ∈ revisions.flatMap Revision.mentions := by
  induction revisions generalizing c with
  | nil => simp [reviseAll]
  | cons r rest ih =>
      rw [reviseAll_cons, ih, hasState_revise_iff, or_assoc,
        ← List.mem_append, ← List.flatMap_cons]

/-
  The last designated label is initial, or else the label
  that was initial before, or else the first one registered.
-/
theorem WellFormed.initial_reviseAll
    (hWell : c.WellFormed)
    (revisions : List (Revision G A)) :
    (c.reviseAll revisions).initial =
      (c.designations revisions).getLast?.or
        (c.initial.or
          (revisions.flatMap
            Revision.mentions).head?) := by
  induction revisions generalizing c with
  | nil => simp [Chart.reviseAll, designations]
  | cons r rest ih =>
      rw [reviseAll_cons, ih (hWell.revise r),
        hWell.initial_revise]
      simp only [designations, List.getLast?_append,
        List.flatMap_cons, List.head?_append,
        Option.or_assoc]
      cases r.designated? c <;> rfl

end RevisingAll

------------------------------------------------------------
-- The Initial State
------------------------------------------------------------

/-
  Whatever is done to a chart from the empty one on, the
  label that was designated last is initial, or, if none
  could be designated, the first one that was registered.
  A revision that designates nothing, be it that it fails to
  do so, does not change the initial label once there is
  one. The registered labels are those that were mentioned,
  so none is ever lost.
-/
theorem initial_of_revisions
    (revisions : List (Revision G A)) :
    let c : Chart G A := Chart.empty.reviseAll revisions
    let registered := revisions.flatMap Revision.mentions
    c.initialState?.map State.label =
        (Chart.empty.designations revisions).getLast?.or
          registered.head? ∧
      (∀ (r : Revision G A) (label : String),
        c.initialState?.map State.label = some label →
          r.designated? c = none →
            (c.revise r).initialState?.map State.label =
              some label) ∧
      (∀ state,
        c.hasState state = true ↔ state ∈ registered) ∧
      ∀ (more : List (Revision G A)) (state : String),
        c.hasState state = true →
          (c.reviseAll more).hasState state = true := by
  intro c registered
  have hEmpty : (Chart.empty : Chart G A).WellFormed :=
    .empty
  have hWell : c.WellFormed := hEmpty.reviseAll revisions
  refine ⟨?_, ?_, ?_, ?_⟩
  · rw [hWell.map_label_initialState?]
    exact hEmpty.initial_reviseAll revisions
  · intro r label hInitial hNone
    rw [hWell.map_label_initialState?] at hInitial
    rw [(hWell.revise r).map_label_initialState?,
      hWell.initial_revise, hNone, hInitial]
    rfl
  · intro state
    rw [hasState_reviseAll_iff, hasState_empty]
    simp [registered]
  · intro more state hState
    exact (hasState_reviseAll_iff c more).mpr (Or.inl hState)

/-
  A label is designated too early, a text is read up to a
  fault, its first state is replaced, and a label that is
  not registered is designated.
-/
def faultyRevisions : List (Revision Unit Unit) :=
  [ .change (.designate "b"),
    .change (.read "b -> a (up); oops; c -> c (on)"),
    .register (.plain "b") (.plain "b"),
    .change (.designate "ghost") ]

/-
  The first source is initial until another state that is
  registered is designated.
-/
theorem initial_of_revisions_faulty :
    let c := Chart.empty.reviseAll faultyRevisions
    let d := c.revise (.change (.ensureState "c"))
    let e :=
      Chart.empty.reviseAll
        (faultyRevisions ++ [.change (.designate "a")])
    c.initialState?.map State.label = some "b" ∧
      d.initialState?.map State.label = some "b" ∧
      e.initialState?.map State.label = some "a" ∧
      c.hasState "a" = true ∧ c.hasState "c" = false := by
  intro c d e
  rcases initial_of_revisions faultyRevisions with
    ⟨hInitial, hKept, hStates, _⟩
  have hFirst : c.initialState?.map State.label = some "b" :=
    hInitial.trans rfl
  have hLast :=
    (initial_of_revisions
      (faultyRevisions ++ [.change (.designate "a")])).1
  refine ⟨hFirst, ?_, hLast.trans rfl, ?_, ?_⟩
  · exact hKept (.change (.ensureState "c")) "b" hFirst rfl
  · exact (hStates "a").mpr (by decide)
  · rw [Bool.eq_false_iff, ne_eq, hStates]
    decide

end Chart

end Statechart
