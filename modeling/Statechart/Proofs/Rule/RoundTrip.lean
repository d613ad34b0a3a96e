import Statechart.Proofs.Chart.Outline
import Statechart.Proofs.Rule.Reading
import Statechart.Proofs.Rule.Writing

/-
  This file states what is kept when the rule text of a
  chart is read again. All transitions are kept, states
  without transitions are lost, and the initial state is
  forgotten: it becomes the least of those that can be left.

  Key definitions include:
    * `Chart.Mentions`
    * `Chart.LeastSource`
    * `Chart.reread`

  Key theorems include:
    * `Chart.WellFormed.destination_reread`
    * `Chart.Textual.initial_reread_iff`
    * `Chart.Textual.sameOutline_reread_iff`
    * `Chart.ruleText_read_again`
-/

namespace Statechart

namespace Chart

variable {G A : Type}
variable {c d : Chart G A}

------------------------------------------------------------
-- Mentioned States
------------------------------------------------------------

/- Some transition leaves the state or leads to it. -/
def Mentions
    (c : Chart G A)
    (state : String) : Prop :=
  ∃ source label t,
    c.transition? source label = some t ∧
      (source = state ∨ t.destination = state)

/- The least label of a state that can be left. -/
def LeastSource
    (c : Chart G A)
    (state : String) : Prop :=
  (∃ label t, c.transition? state label = some t) ∧
    ∀ source label t,
      c.transition? source label = some t → state ≤ source

theorem LeastSource.unique
    {state state' : String}
    (hLeast : c.LeastSource state)
    (hLeast' : c.LeastSource state') :
    state = state' := by
  rcases hLeast.1 with ⟨label, t, hFound⟩
  rcases hLeast'.1 with ⟨label', t', hFound'⟩
  exact
    String.le_antisymm (hLeast.2 _ _ _ hFound')
      (hLeast'.2 _ _ _ hFound)

/- In a closed chart only registered states are mentioned. -/
theorem Closed.hasState_of_mentions
    (hClosed : c.Closed)
    {state : String}
    (hMentions : c.Mentions state) :
    c.hasState state = true := by
  rcases hMentions with
    ⟨source, label, t, hFound, rfl | rfl⟩
  · exact hasState_of_transition? hFound
  · exact hClosed source label t hFound

------------------------------------------------------------
-- Reading Again
------------------------------------------------------------

/- The chart that the sorted rules of a chart build. -/
def reread (c : Chart G A) : Chart G A :=
  Chart.empty.applyAll c.sortedRules

theorem reread_wellFormed
    (c : Chart G A) :
    c.reread.WellFormed :=
  WellFormed.empty.applyAll c.sortedRules

namespace WellFormed

theorem mem_sortedRules_iff
    (hWell : c.WellFormed)
    {r : Rule} :
    r ∈ c.sortedRules ↔
      ∃ t, c.transition? r.source r.label = some t ∧
        t.destination = r.destination := by
  rw [c.sortedRules_perm.mem_iff, hWell.mem_rules_iff]

/- The rule of a transition is among the sorted ones. -/
theorem rule_mem_sortedRules
    (hWell : c.WellFormed)
    {source label : String}
    {t : Transition G A}
    (hFound : c.transition? source label = some t) :
    ⟨source, t.destination, label⟩ ∈ c.sortedRules :=
  hWell.mem_sortedRules_iff.mpr ⟨t, hFound, rfl⟩

/- Every transition is kept, and none is added. -/
theorem destination_reread
    (hWell : c.WellFormed)
    (state label : String) :
    (c.reread.transition? state label).map
        (·.destination) =
      (c.transition? state label).map (·.destination) := by
  unfold reread
  rw [empty.transition?_applyAll, transition?_empty,
    Option.or_none]
  cases hRule :
      c.sortedRules.reverse.find?
        (Rule.leaves state label) with
  | none =>
      have hNone : c.transition? state label = none := by
        apply Option.eq_none_iff_forall_ne_some.mpr
        intro t hFound
        have hMember := hWell.rule_mem_sortedRules hFound
        have hOther :=
          List.find?_eq_none.mp hRule _
            (List.mem_reverse.mpr hMember)
        exact hOther (Rule.leaves_iff.mpr ⟨rfl, rfl⟩)
      rw [hNone]
      rfl
  | some r =>
      rcases Rule.mem_of_find?_reverse hRule with
        ⟨hMember, rfl, rfl⟩
      rcases hWell.mem_sortedRules_iff.mp hMember with
        ⟨t, hFound, hDestination⟩
      rw [hFound]
      exact congrArg some hDestination.symm

/- The same labels leave the same states. -/
theorem isSome_transition?_reread
    (hWell : c.WellFormed)
    (state label : String) :
    (c.reread.transition? state label).isSome =
      (c.transition? state label).isSome := by
  have hDestination := hWell.destination_reread state label
  have hSome := congrArg Option.isSome hDestination
  rwa [Option.isSome_map, Option.isSome_map] at hSome

/- Both charts have the same rules. -/
theorem rules_reread_perm
    (hWell : c.WellFormed) :
    c.reread.rules.Perm c.rules := by
  have hReread := c.reread_wellFormed
  apply
    (List.perm_ext_iff_of_nodup hReread.rules_nodup
      hWell.rules_nodup).mpr
  intro r
  have hEq := hWell.destination_reread r.source r.label
  have hOption :
      ∀ o : Option (Transition G A),
        (∃ t, o = some t ∧
            t.destination = r.destination) ↔
          o.map (·.destination) = some r.destination :=
    fun _ => Option.map_eq_some_iff.symm
  rw [hReread.mem_rules_iff, hWell.mem_rules_iff, hOption,
    hOption, hEq]

/- The states of the chart are those that are mentioned. -/
theorem hasState_reread_iff
    (hWell : c.WellFormed)
    {state : String} :
    c.reread.hasState state = true ↔ c.Mentions state := by
  unfold reread
  rw [hasState_applyAll_iff, hasState_empty]
  constructor
  · rintro (hOld | ⟨r, hMember, hEnd⟩)
    · cases hOld
    · rcases hWell.mem_sortedRules_iff.mp hMember with
        ⟨t, hFound, hDestination⟩
      rw [← hDestination] at hEnd
      exact ⟨_, _, t, hFound, hEnd⟩
  · rintro ⟨source, label, t, hFound, hEnd⟩
    exact
      Or.inr ⟨_, hWell.rule_mem_sortedRules hFound, hEnd⟩

/- Without rules there is no transition. -/
theorem transition?_eq_none_of_sortedRules
    (hWell : c.WellFormed)
    (hNil : c.sortedRules = [])
    (state label : String) :
    c.transition? state label = none := by
  apply Option.eq_none_iff_forall_ne_some.mpr
  intro t hFound
  have hMember := hWell.rule_mem_sortedRules hFound
  rw [hNil] at hMember
  cases hMember

theorem initial_reread
    (c : Chart G A) :
    c.reread.initial =
      c.sortedRules.head?.map Rule.source :=
  WellFormed.empty.initial_applyAll c.sortedRules

/- Nothing is initial if nothing can be left. -/
theorem initial_reread_eq_none_iff
    (hWell : c.WellFormed) :
    c.reread.initial = none ↔
      ∀ state label, c.transition? state label = none := by
  rw [initial_reread]
  cases hSorted : c.sortedRules with
  | nil =>
      have hNone :=
        hWell.transition?_eq_none_of_sortedRules hSorted
      simp [hNone]
  | cons first rest =>
      have hFirst : first ∈ c.sortedRules :=
        hSorted ▸ List.mem_cons_self
      rcases hWell.mem_sortedRules_iff.mp hFirst with
        ⟨t, hFound, _⟩
      constructor
      · intro hNone
        cases hNone
      · intro hNone
        rw [hNone] at hFound
        cases hFound

end WellFormed

namespace Textual

/- Textual rules keep a chart textual. -/
theorem applyAll
    (hTextual : c.Textual)
    (hWell : c.WellFormed)
    {rules : List Rule}
    (hRules : ∀ r ∈ rules, r.Textual) :
    (c.applyAll rules).Textual := by
  intro state label t hFound
  rw [hWell.transition?_applyAll] at hFound
  cases hRule :
      rules.reverse.find? (Rule.leaves state label) with
  | none =>
      rw [hRule] at hFound
      exact hTextual state label t hFound
  | some r =>
      rw [hRule] at hFound
      cases hFound
      rcases Rule.mem_of_find?_reverse hRule with
        ⟨hMember, rfl, rfl⟩
      have hNames := hRules r hMember
      exact
        ⟨hNames.source, hNames.label, hNames.destination⟩

/- The initial state is the least that can be left. -/
theorem initial_reread_iff
    (hTextual : c.Textual)
    (hWell : c.WellFormed)
    {state : String} :
    c.reread.initial = some state ↔ c.LeastSource state := by
  rw [WellFormed.initial_reread]
  cases hSorted : c.sortedRules with
  | nil =>
      constructor
      · intro hNone
        cases hNone
      · rintro ⟨⟨label, t, hFound⟩, _⟩
        rw [hWell.transition?_eq_none_of_sortedRules hSorted]
          at hFound
        cases hFound
  | cons first rest =>
      have hFirst : first ∈ c.sortedRules :=
        hSorted ▸ List.mem_cons_self
      have hLeast : c.LeastSource first.source := by
        constructor
        · rcases hWell.mem_sortedRules_iff.mp hFirst with
            ⟨t, hFound, _⟩
          exact ⟨_, t, hFound⟩
        · intro source label t hFound
          exact
            hTextual.sortedRules_head hWell hSorted _
              (hWell.rule_mem_sortedRules hFound)
      constructor
      · intro hEq
        exact Option.some.inj hEq ▸ hLeast
      · intro hOther
        exact congrArg some (hLeast.unique hOther)

/-
  The chart has the outline it had before if no state was
  isolated, no transition was dangling, and the initial
  state was the one that it becomes.
-/
theorem sameOutline_reread_iff
    (hTextual : c.Textual)
    (hWell : c.WellFormed) :
    c.reread.sameOutline c = true ↔
      (∀ state,
          c.hasState state = true → c.Mentions state) ∧
        c.Closed ∧
        (c.stateList = [] ∨
          ∃ label, c.initial = some label ∧
            c.LeastSource label) := by
  rw [c.reread_wellFormed.sameOutline_iff hWell]
  constructor
  · rintro ⟨hInitial, hStates, _⟩
    refine ⟨?_, ?_, ?_⟩
    · intro state hState
      rw [← hStates] at hState
      exact hWell.hasState_reread_iff.mp hState
    · intro source label t hFound
      rw [← hStates]
      exact
        hWell.hasState_reread_iff.mpr
          ⟨source, label, t, hFound, Or.inr rfl⟩
    · cases hLabel : c.initial with
      | none =>
          exact
            Or.inl (hWell.stateList_eq_nil_iff.mpr hLabel)
      | some label =>
          rw [hLabel] at hInitial
          exact
            Or.inr
              ⟨label, rfl,
                (hTextual.initial_reread_iff hWell).mp
                  hInitial⟩
  · rintro ⟨hMentioned, hClosed, hLeast⟩
    refine ⟨?_, ?_, hWell.isSome_transition?_reread⟩
    · rcases hLeast with hEmpty | ⟨label, hLabel, hLeast⟩
      · have hNone := hWell.stateList_eq_nil_iff.mp hEmpty
        rw [hNone, hWell.initial_reread_eq_none_iff]
        intro state label
        apply Option.eq_none_iff_forall_ne_some.mpr
        intro t hFound
        exact
          hWell.started (hasState_of_transition? hFound)
            hNone
      · rw [hLabel]
        exact (hTextual.initial_reread_iff hWell).mpr hLeast
    · intro state
      rw [Bool.eq_iff_iff, hWell.hasState_reread_iff]
      exact
        ⟨hClosed.hasState_of_mentions, hMentioned state⟩

end Textual

/-
  Only the initial state has to be designated again where
  no state is isolated and no transition is dangling.
-/
theorem WellFormed.designate_reread
    (hWell : c.WellFormed)
    (hMentioned :
      ∀ state, c.hasState state = true → c.Mentions state)
    (hClosed : c.Closed)
    {label : String}
    (hInitial : c.initial = some label) :
    ∃ d, c.reread.designate label = .ok d ∧
      d.sameOutline c = true := by
  have hState : c.reread.hasState label = true :=
    hWell.hasState_reread_iff.mpr
      (hMentioned label (hWell.registered hInitial))
  have hDesignated :
      c.reread.designate label =
        .ok { c.reread with initial := some label } :=
    designate_eq_ok_iff.mpr ⟨hState, rfl⟩
  refine ⟨_, hDesignated, ?_⟩
  have hReread := c.reread_wellFormed.designate hDesignated
  apply (hReread.sameOutline_iff hWell).mpr
  refine
    ⟨hInitial.symm, ?_, hWell.isSome_transition?_reread⟩
  intro state
  have hStates :
      c.reread.hasState state = c.hasState state := by
    rw [Bool.eq_iff_iff, hWell.hasState_reread_iff]
    exact ⟨hClosed.hasState_of_mentions, hMentioned state⟩
  exact hStates

------------------------------------------------------------
-- A Crossing
------------------------------------------------------------

/- Two states with the greater one initial. -/
def crossing : Chart Unit Unit :=
  Chart.empty.applyAll
    [⟨"a-b", "a", "down"⟩, ⟨"a", "a-b", "up"⟩]

theorem crossing_textual : crossing.Textual := by
  have hEmpty : (Chart.empty : Chart Unit Unit).Textual :=
    nofun
  apply hEmpty.applyAll WellFormed.empty
  intro r hMember
  simp only [List.mem_cons, List.not_mem_nil, or_false]
    at hMember
  rcases hMember with rfl | rfl
  · exact ⟨by decide, by decide, by decide⟩
  · exact ⟨by decide, by decide, by decide⟩

theorem crossing_states
    {state : String}
    (hState : crossing.hasState state = true) :
    state = "a" ∨ state = "a-b" := by
  have hKeys : crossing.states.keys = ["a", "a-b"] := rfl
  have hMember : state ∈ crossing.states.keys :=
    (LabelMap.mem_keys_iff _).mpr hState
  simpa [hKeys] using hMember

theorem crossing_leastSource :
    crossing.LeastSource "a" := by
  constructor
  · exact ⟨"up", _, rfl⟩
  · intro source label t hFound
    rcases crossing_states
        (hasState_of_transition? hFound) with
      rfl | rfl
    · decide
    · decide

theorem crossing_mentions
    {state : String}
    (hState : crossing.hasState state = true) :
    crossing.Mentions state := by
  rcases crossing_states hState with rfl | rfl
  · exact ⟨"a", "up", _, rfl, Or.inl rfl⟩
  · exact ⟨"a-b", "down", _, rfl, Or.inl rfl⟩

------------------------------------------------------------
-- The Rule Text Read Again
------------------------------------------------------------

/-
  The rule text of a textual chart can be read, one rule for
  each transition. What is read has the same transitions and
  the same rule text. It is the chart itself, up to what an
  outline shows, if nothing but transitions was to be kept.
-/
theorem ruleText_read_again
    (hBuilt : c.Built)
    (hTextual : c.Textual) :
    ∃ d : Chart G A,
      ofRules c.ruleText = .ok d ∧
        (Chart.empty.read c.ruleText : Reading G A) =
          ⟨d,
            .ok
              (c.stateList.flatMap
                (·.transitions.values)).length⟩ ∧
        (∀ state,
          d.hasState state = true ↔ c.Mentions state) ∧
        (∀ state label,
          (d.transition? state label).map (·.destination) =
            (c.transition? state label).map
              (·.destination)) ∧
        d.ruleText = c.ruleText ∧
        (∀ state,
          d.initial = some state ↔ c.LeastSource state) ∧
        (d.initial = none ↔
          ∀ state label, c.transition? state label = none) ∧
        (d.sameOutline c = true ↔
          (∀ state,
              c.hasState state = true → c.Mentions state) ∧
            c.Closed ∧
            (c.stateList = [] ∨
              ∃ label, c.initial = some label ∧
                c.LeastSource label)) ∧
        (c.stateList ≠ [] →
          (∀ state,
              c.hasState state = true → c.Mentions state) →
            c.Closed →
              ∃ label e,
                c.initial = some label ∧
                  d.designate label = .ok e ∧
                  e.sameOutline c = true) := by
  have hWell := hBuilt.wellFormed
  have hParsed := hTextual.statements_ruleText hWell
  have hCount :
      c.sortedRules.length =
        (c.stateList.flatMap
          (·.transitions.values)).length := by
    rw [c.sortedRules_perm.length_eq, ← c.edges_length]
    exact List.length_map _
  refine
    ⟨c.reread, ofRules_eq_ok hParsed, ?_,
      fun _ => hWell.hasState_reread_iff,
      hWell.destination_reread,
      ruleText_eq_of_perm hWell.rules_reread_perm,
      fun _ => hTextual.initial_reread_iff hWell,
      hWell.initial_reread_eq_none_iff,
      hTextual.sameOutline_reread_iff hWell, ?_⟩
  · rw [read_of_rules _ hParsed, hCount]
    rfl
  · intro hNonempty hMentioned hClosed
    cases hInitial : c.initial with
    | none =>
        exact
          absurd (hWell.stateList_eq_nil_iff.mpr hInitial)
            hNonempty
    | some label =>
        rcases hWell.designate_reread hMentioned hClosed
            hInitial with
          ⟨e, hDesignated, hOutline⟩
        exact ⟨label, e, rfl, hDesignated, hOutline⟩

/- Read again, the lesser state is initial. -/
theorem ruleText_read_again_crossing :
    crossing.Built ∧ crossing.Textual ∧
      ∃ d e : Chart Unit Unit,
        ofRules crossing.ruleText = .ok d ∧
          d.ruleText = crossing.ruleText ∧
          d.initial = some "a" ∧
          crossing.initial = some "a-b" ∧
          d.designate "a-b" = .ok e ∧
          e.sameOutline crossing = true := by
  have hBuilt : crossing.Built :=
    (Built.empty.connect "a-b" "a" "down").connect "a" "a-b"
      "up"
  have hClosed : crossing.Closed :=
    crossing.validate_eq_ok_iff.mp rfl
  have hInitial : crossing.initial = some "a-b" := rfl
  rcases ruleText_read_again hBuilt crossing_textual with
    ⟨d, hRead, _, _, _, hText, hLeast, _, _, hAgain⟩
  rcases hAgain (List.cons_ne_nil _ _)
      (fun _ => crossing_mentions) hClosed with
    ⟨label, e, hLabel, hDesignated, hOutline⟩
  cases hInitial.symm.trans hLabel
  exact
    ⟨hBuilt, crossing_textual, d, e, hRead, hText,
      (hLeast "a").mpr crossing_leastSource, hInitial,
      hDesignated, hOutline⟩

end Chart

end Statechart
