import Mathlib.Data.List.Forall2
import Statechart.Proofs.Chart.Grid
import Statechart.Proofs.Chart.Outline
import Statechart.Proofs.Chart.Revision

/-
  This file states that no revision tells charts with the
  same outline apart: it leaves charts with the same outline
  again, and it reports the same of both, also if it fails.

  The revisions of two charts need not be the same either.
  They are alike if they differ only in what an outline
  leaves out: destinations, gates and actions.

  Key definitions include:
    * `Chart.Report`
    * `Chart.report`
    * `Chart.reports`
    * `Chart.Revision.Alike`

  Key theorems include:
    * `Chart.outline_addState_congr`
    * `Chart.outline_addTransition_congr`
    * `Chart.outline_read_congr`
    * `Chart.outline_revise_congr`
    * `Chart.report_congr`
    * `Chart.outline_reviseAll_congr`
    * `Chart.revisions_respect_outline`
-/

namespace Statechart

------------------------------------------------------------
-- States
------------------------------------------------------------

namespace State

variable {G A : Type}
variable {s s' : State G A}

/- Only the label of an attached transition is outlined. -/
theorem outline_attach_congr
    (hSame : s.outline = s'.outline)
    {t t' : Transition G A}
    (hLabel : t.label = t'.label) :
    (s.attach t).outline = (s'.attach t').outline := by
  rw [Chart.outline_state_eq_iff] at hSame ⊢
  refine ⟨hSame.1, ?_⟩
  intro label
  rw [transition?_attach, transition?_attach, hLabel]
  split
  · rfl
  · exact hSame.2 label

end State

namespace Chart

variable {G A : Type}
variable {c d : Chart G A}

------------------------------------------------------------
-- Single Operations
------------------------------------------------------------

theorem state?_outline_eq
    (hSame : c.outline = d.outline)
    (label : String) :
    (c.state? label).map State.outline =
      (d.state? label).map State.outline :=
  (outline_eq_iff.mp hSame).2 label

theorem hasState_eq_of_outline_eq
    (hSame : c.outline = d.outline)
    (label : String) :
    c.hasState label = d.hasState label := by
  have hSome :=
    congrArg Option.isSome (state?_outline_eq hSame label)
  rw [Option.isSome_map, Option.isSome_map] at hSome
  exact hSome

/- The registered states may differ like the charts do. -/
theorem outline_addState_congr
    (hSame : c.outline = d.outline)
    {s s' : State G A}
    (hState : s.outline = s'.outline) :
    (c.addState s).outline = (d.addState s').outline := by
  have hLabel : s.label = s'.label :=
    congrArg Prod.fst hState
  rcases outline_eq_iff.mp hSame with ⟨hInitial, _⟩
  apply outline_eq_iff.mpr
  constructor
  · simp only [addState, initialOr, hLabel, hInitial]
  · intro label
    rw [state?_addState, state?_addState, hLabel]
    split
    · exact congrArg some hState
    · exact state?_outline_eq hSame label

theorem outline_ensureState_congr
    (hSame : c.outline = d.outline)
    (label : String) :
    (c.ensureState label).outline =
      (d.ensureState label).outline := by
  unfold ensureState
  rw [hasState_eq_of_outline_eq hSame label]
  split
  · exact hSame
  · exact outline_addState_congr hSame rfl

theorem outline_addTransition_congr
    (hSame : c.outline = d.outline)
    (state : String)
    {t t' : Transition G A}
    (hLabel : t.label = t'.label) :
    (c.addTransition state t).outline =
      (d.addTransition state t').outline := by
  apply outline_eq_iff.mpr
  refine ⟨(outline_eq_iff.mp hSame).1, ?_⟩
  intro label
  have hFound := state?_outline_eq hSame label
  -- Both charts own the state, or neither of them does.
  rw [state?_addTransition, state?_addTransition]
  split
  · cases hLeft : c.state? label with
    | none =>
        rw [hLeft] at hFound
        rw [Option.map_eq_none_iff.mp hFound.symm]
        rfl
    | some s =>
        rw [hLeft] at hFound
        rcases Option.map_eq_some_iff.mp hFound.symm with
          ⟨s', hRight, hState⟩
        rw [hRight]
        exact
          congrArg some
            (State.outline_attach_congr hState.symm hLabel)
  · exact hFound

/- Designating fails for both, or gives the same outline. -/
theorem outline_designate_congr
    (hSame : c.outline = d.outline)
    (label : String) :
    (c.designate label).map outline =
      (d.designate label).map outline := by
  unfold designate
  rw [hasState_eq_of_outline_eq hSame label]
  split
  · have hStates := (Prod.mk.inj hSame).2
    exact congrArg Except.ok (Prod.ext rfl hStates)
  · rfl

theorem outline_edit
    (c : Chart G A)
    (e : HookEdit G A) :
    (c.edit e).outline = c.outline :=
  SameTopology.outline_eq (c.unhooked_edit e)

------------------------------------------------------------
-- Reading
------------------------------------------------------------

theorem outline_applyRule_congr
    (hSame : c.outline = d.outline)
    (r : Rule) :
    (c.applyRule r).outline = (d.applyRule r).outline :=
  outline_addTransition_congr
    (outline_ensureState_congr
      (outline_ensureState_congr hSame r.source)
      r.destination)
    r.source rfl

theorem outline_applyAll_congr
    (hSame : c.outline = d.outline)
    (rules : List Rule) :
    (c.applyAll rules).outline =
      (d.applyAll rules).outline := by
  induction rules generalizing c d with
  | nil => exact hSame
  | cons r rest ih =>
      exact ih (outline_applyRule_congr hSame r)

/- The same rules are applied, up to the same fault. -/
theorem outline_read_congr
    (hSame : c.outline = d.outline)
    (text : String) :
    (c.read text).chart.outline =
        (d.read text).chart.outline ∧
      (c.read text).outcome = (d.read text).outcome := by
  rw [c.read_eq, d.read_eq]
  exact ⟨outline_applyAll_congr hSame _, rfl⟩

------------------------------------------------------------
-- Revisions and What They Report
------------------------------------------------------------

/-
  What is known of a revision besides the chart that it
  leaves: the outline of the state that was registered or
  found, whether there is a state to attach a transition to,
  how far a text was read, or whether a label could be
  designated.
-/
inductive Report where
  | state (outline : Option (String × List String))
  | attached (found : Bool)
  | read (outcome : Except RuleError Nat)
  | designated (outcome : Except ChartError Unit)
  | edited

/- The report on a revision. -/
def report
    (c : Chart G A) :
    Revision G A → Report
  | .register s _ =>
      .state
        (((c.addState s).state? s.label).map State.outline)
  | .change (.ensureState label) =>
      .state
        (((c.ensureState label).state? label).map
          State.outline)
  | .change (.addTransition state _) =>
      .attached (c.hasState state)
  | .change (.read text) => .read (c.read text).outcome
  | .change (.designate label) =>
      .designated ((c.designate label).map fun _ => ())
  | .change (.edit _) => .edited

/- The reports on revisions that are made in order. -/
def reports
    (c : Chart G A) :
    List (Revision G A) → List Report
  | [] => []
  | r :: rest => c.report r :: reports (c.revise r) rest

/-
  Revisions are alike if they do the same with the same
  labels. Registered states must have the same outline, and
  attached transitions the same label; hooks do not matter.
-/
inductive Revision.Alike :
    Revision G A → Revision G A → Prop where
  | register
      {s s' : State G A}
      (hBuilt : s.Built)
      (hBuilt' : s'.Built)
      (hSame : s.sameOutline s' = true) :
      Alike (.register s hBuilt) (.register s' hBuilt')
  | ensureState (label : String) :
      Alike (.change (.ensureState label))
        (.change (.ensureState label))
  | addTransition
      (state : String)
      {t t' : Transition G A}
      (hLabel : t.label = t'.label) :
      Alike (.change (.addTransition state t))
        (.change (.addTransition state t'))
  | read (text : String) :
      Alike (.change (.read text)) (.change (.read text))
  | designate (label : String) :
      Alike (.change (.designate label))
        (.change (.designate label))
  | edit (e e' : HookEdit G A) :
      Alike (.change (.edit e)) (.change (.edit e'))

/- A label that cannot be designated changes nothing. -/
theorem revise_designate
    (c : Chart G A)
    (label : String) :
    (c.revise (.change (.designate label))).outline =
      match (c.designate label).map outline with
      | .error _ => c.outline
      | .ok designated => designated := by
  simp only [revise, change]
  cases c.designate label <;> rfl

theorem outline_revise_congr
    (hSame : c.outline = d.outline)
    {r r' : Revision G A}
    (hAlike : r.Alike r') :
    (c.revise r).outline = (d.revise r').outline := by
  cases hAlike with
  | register _ _ hState =>
      exact
        outline_addState_congr hSame
          (State.sameOutline_iff.mp hState)
  | ensureState label =>
      exact outline_ensureState_congr hSame label
  | addTransition state hLabel =>
      exact outline_addTransition_congr hSame state hLabel
  | read text => exact (outline_read_congr hSame text).1
  | designate label =>
      rw [revise_designate, revise_designate,
        outline_designate_congr hSame label, hSame]
  | edit e e' =>
      exact
        (c.outline_edit e).trans
          (hSame.trans (d.outline_edit e').symm)

theorem report_congr
    (hSame : c.outline = d.outline)
    {r r' : Revision G A}
    (hAlike : r.Alike r') :
    c.report r = d.report r' := by
  have hRevised := outline_revise_congr hSame hAlike
  cases hAlike with
  | @register s s' _ _ hState =>
      have hOutline := State.sameOutline_iff.mp hState
      have hLabel : s.label = s'.label :=
        congrArg Prod.fst hOutline
      simp only [report, ← hLabel]
      exact
        congrArg Report.state
          (state?_outline_eq hRevised s.label)
  | ensureState label =>
      exact
        congrArg Report.state
          (state?_outline_eq hRevised label)
  | addTransition state hLabel =>
      exact
        congrArg Report.attached
          (hasState_eq_of_outline_eq hSame state)
  | read text =>
      exact
        congrArg Report.read (outline_read_congr hSame text).2
  | designate label =>
      have hForget :
          ∀ e : Chart G A,
            ((e.designate label).map outline).map
                (fun _ => ()) =
              (e.designate label).map fun _ => () := by
        intro e
        cases e.designate label <;> rfl
      simp only [report, ← hForget,
        outline_designate_congr hSame label]
  | edit e e' => rfl

/- Charts are revised in lockstep, however often. -/
theorem outline_reviseAll_congr
    (hSame : c.outline = d.outline)
    {revisions revisions' : List (Revision G A)}
    (hAlike :
      List.Forall₂ Revision.Alike revisions revisions') :
    (c.reviseAll revisions).outline =
        (d.reviseAll revisions').outline ∧
      c.reports revisions = d.reports revisions' := by
  induction hAlike generalizing c d with
  | nil => exact ⟨hSame, rfl⟩
  | cons hFirst _ ih =>
      have hRest := ih (outline_revise_congr hSame hFirst)
      refine ⟨hRest.1, ?_⟩
      unfold reports
      rw [report_congr hSame hFirst, hRest.2]

/-
  Charts with the same outline keep having the same outline,
  whatever is done to both of them: reading a text, be it up
  to a fault, registering and creating states, attaching
  transitions, and designating a label. What this reports is
  the same for both as well. It is enough that the states
  have the same outline and the transitions the same label,
  and any number of such revisions may follow each other.
-/
theorem revisions_respect_outline
    (hSame : c.sameOutline d = true) :
    (∀ text,
        (c.read text).chart.sameOutline
            (d.read text).chart = true ∧
          (c.read text).outcome = (d.read text).outcome) ∧
      (∀ label,
        (c.ensureState label).sameOutline
          (d.ensureState label) = true) ∧
      (∀ s s' : State G A,
        s.sameOutline s' = true →
          (c.addState s).sameOutline
            (d.addState s') = true) ∧
      (∀ state (t t' : Transition G A),
        t.label = t'.label →
          (c.addTransition state t).sameOutline
              (d.addTransition state t') = true ∧
            c.hasState state = d.hasState state) ∧
      (∀ label,
        (c.designate label).map outline =
          (d.designate label).map outline) ∧
      ∀ revisions revisions',
        List.Forall₂ Revision.Alike revisions revisions' →
          (c.reviseAll revisions).sameOutline
              (d.reviseAll revisions') = true ∧
            c.reports revisions = d.reports revisions' := by
  simp only [sameOutline_iff, State.sameOutline_iff]
    at hSame ⊢
  refine ⟨?_, ?_, ?_, ?_, ?_, ?_⟩
  · exact outline_read_congr hSame
  · exact outline_ensureState_congr hSame
  · intro s s' hState
    exact outline_addState_congr hSame hState
  · intro state t t' hLabel
    exact
      ⟨outline_addTransition_congr hSame state hLabel,
        hasState_eq_of_outline_eq hSame state⟩
  · exact outline_designate_congr hSame
  · intro revisions revisions' hAlike
    exact outline_reviseAll_congr hSame hAlike

/- A state from which a single transition leads elsewhere. -/
def springboard (destination : String) : State Unit Unit :=
  (State.plain "mid").attach (.plain "leap" destination)

/-
  A state is registered, a text is read up to a fault, a
  label is designated that is not there, and a transition is
  attached.
-/
def leaps (destination : String) :
    List (Revision Unit Unit) :=
  [ .register (springboard destination)
      (.attach _ (.plain "mid")),
    .change (.read "left -> top (jump); oops"),
    .change (.designate "ghost"),
    .change (.addTransition "top" (.plain "drop" destination)) ]

/- Charts with different grids stay alike in their outline. -/
theorem revisions_respect_outline_seesaw :
    let t : Transition Unit Unit := .plain "drop" "left"
    let t' : Transition Unit Unit := .plain "drop" "mid"
    seesaw.sameOutline stuckSeesaw = true ∧
      seesaw.grid ≠ stuckSeesaw.grid ∧
      (springboard "left").sameOutline (springboard "mid") =
        true ∧
      t.label = t'.label ∧
      List.Forall₂ Revision.Alike (leaps "left")
        (leaps "mid") ∧
      (seesaw.addState (springboard "left")).sameOutline
          (stuckSeesaw.addState (springboard "mid")) =
        true ∧
      (seesaw.addTransition "left" t).sameOutline
          (stuckSeesaw.addTransition "left" t') =
        true ∧
      (seesaw.reviseAll (leaps "left")).sameOutline
          (stuckSeesaw.reviseAll (leaps "mid")) =
        true ∧
      seesaw.reports (leaps "left") =
        stuckSeesaw.reports (leaps "mid") := by
  intro t t'
  have hSame : seesaw.sameOutline stuckSeesaw = true := by
    decide
  have hState :
      (springboard "left").sameOutline (springboard "mid") =
        true := by
    decide
  have hAlike :
      List.Forall₂ Revision.Alike (leaps "left")
        (leaps "mid") :=
    .cons (.register _ _ hState)
      (.cons (.read _)
        (.cons (.designate _)
          (.cons (.addTransition _ rfl) .nil)))
  rcases revisions_respect_outline hSame with
    ⟨_, _, hRegister, hAttach, _, hRevise⟩
  exact
    ⟨hSame, by decide, hState, rfl, hAlike,
      hRegister _ _ hState, (hAttach "left" t t' rfl).1,
      hRevise _ _ hAlike⟩

end Chart

end Statechart
