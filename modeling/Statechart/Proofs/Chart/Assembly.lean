import Statechart.Proofs.Rule.Effect
import Statechart.Proofs.Rule.Statement

/-
  This file states what comes of an assembly. Every part
  registers the states that it mentions and brings the rules
  that it states, be it written as a text or not, so that
  the chart depends only on what all parts together mention
  and state, in order.

  Key definitions include:
    * `Assembly.Part.stated`
    * `Assembly.Part.mentions`
    * `Assembly.Part.fault?`
    * `Assembly.Part.place`
    * `Assembly.settle`

  Key theorems include:
    * `Assembly.ofCalls_eq`
    * `Assembly.addParts_eq`
    * `Assembly.hasState_placeAll_iff`
    * `Assembly.transition?_placeAll`
    * `Assembly.initial_placeAll`
    * `Assembly.settle_cases`
    * `Assembly.build_ofCalls`
    * `Assembly.build_from_calls`
-/

namespace Statechart

namespace Assembly

variable {G A : Type}

------------------------------------------------------------
-- Parts
------------------------------------------------------------

namespace Part

/- The rules that a part states, up to its first fault. -/
def stated : Part → List Rule
  | .state _ => []
  | .transition origin label target =>
      [⟨origin, target, label⟩]
  | .rules text => Rule.leading (statements text)

/- The states that a part mentions, in order. -/
def mentions : Part → List String
  | .state label => [label]
  | p => p.stated.flatMap fun r => [r.source, r.destination]

/-
  The first statement of a text that is not a rule, with the
  number of statements before it in this text.
-/
def fault? : Part → Option RuleError
  | .rules text =>
      let list := statements text
      let count := list.findIdx Rule.isFault
      list[count]?.map fun statement => ⟨count, statement⟩
  | _ => none

/- A chart with the states and the rules of a part. -/
def place
    (c : Chart G A) : Part → Chart G A
  | .state label => c.ensureState label
  | p => c.applyAll p.stated

variable {c : Chart G A}

theorem place_wellFormed
    (hWell : c.WellFormed)
    (p : Part) :
    (place c p).WellFormed := by
  cases p with
  | state label => exact hWell.ensureState label
  | transition origin label target =>
      exact hWell.applyAll _
  | rules text => exact hWell.applyAll _

theorem hasState_place_iff
    (c : Chart G A)
    (p : Part)
    {state : String} :
    (place c p).hasState state = true ↔
      c.hasState state = true ∨ state ∈ p.mentions := by
  have hRules :
      ∀ list : List Rule,
        (c.applyAll list).hasState state = true ↔
          c.hasState state = true ∨
            state ∈ list.flatMap
              fun r => [r.source, r.destination] := by
    intro list
    rw [Chart.hasState_applyAll_iff, List.mem_flatMap]
    simp only [List.mem_cons, List.not_mem_nil, or_false,
      eq_comm]
  cases p with
  | state label =>
      rw [place, Chart.hasState_ensureState_iff, mentions,
        List.mem_singleton, @eq_comm _ label, or_comm]
  | transition origin label target => exact hRules _
  | rules text => exact hRules _

/- The last rule of a part decides, as within a text. -/
theorem transition?_place
    (hWell : c.WellFormed)
    (p : Part)
    (state label : String) :
    (place c p).transition? state label =
      ((p.stated.reverse.find?
          (Rule.leaves state label)).map
        Rule.transition).or
        (c.transition? state label) := by
  cases p with
  | state created => simp [place, stated]
  | transition origin label target =>
      exact hWell.transition?_applyAll _ _ _
  | rules text => exact hWell.transition?_applyAll _ _ _

/- The first state that a part mentions may be initial. -/
theorem initial_place
    (hWell : c.WellFormed)
    (p : Part) :
    (place c p).initial = c.initial.or p.mentions.head? := by
  have hFirst :
      ∀ list : List Rule,
        (list.flatMap fun r =>
            [r.source, r.destination]).head? =
          list.head?.map Rule.source := by
    intro list
    cases list <;> rfl
  cases p with
  | state label =>
      rw [place, Chart.initial_ensureState]
      by_cases hState : c.hasState label = true
      · rw [if_pos hState]
        have hStarted := hWell.started hState
        cases hInitial : c.initial with
        | none => exact absurd hInitial hStarted
        | some first => rfl
      · rw [if_neg hState]
        cases c.initial <;> rfl
  | transition origin label target =>
      exact
        (hWell.initial_applyAll _).trans
          (congrArg _ (hFirst _).symm)
  | rules text =>
      exact
        (hWell.initial_applyAll _).trans
          (congrArg _ (hFirst _).symm)

/- A part is placed unless it has a fault. -/
theorem addPart_eq
    (c : Chart G A)
    (p : Part) :
    addPart c p =
      match p.fault? with
      | some e => .error (.rule e)
      | none => .ok (place c p) := by
  cases p with
  | state label => rfl
  | transition origin label target => rfl
  | rules text =>
      simp only [addPart, fault?, Chart.read_eq,
        Chart.outcomeOf]
      cases (statements text)[
          (statements text).findIdx Rule.isFault]? with
      | none => rfl
      | some statement => rfl

/- A rule is the same part as a transition and as a text. -/
theorem addPart_text
    (c : Chart G A)
    {r : Rule}
    (hTextual : r.Textual) :
    addPart c (.rules r.text) =
      addPart c (.transition r.source r.label
        r.destination) := by
  have hRead :
      c.read r.text = ⟨c.applyAll [r], .ok 1⟩ := by
    apply c.read_of_rules
    rw [hTextual.statements_text]
    simp [Rule.parse?_text hTextual]
  simp only [addPart, hRead]
  rfl

end Part

------------------------------------------------------------
-- Several Parts
------------------------------------------------------------

/- A chart with the states and the rules of several parts. -/
def placeAll
    (c : Chart G A)
    (parts : List Part) : Chart G A :=
  parts.foldl Part.place c

section Placing

variable {c : Chart G A}

theorem hasState_placeAll_iff
    (c : Chart G A)
    (parts : List Part)
    {state : String} :
    (placeAll c parts).hasState state = true ↔
      c.hasState state = true ∨
        state ∈ parts.flatMap Part.mentions := by
  induction parts generalizing c with
  | nil => simp [placeAll]
  | cons p rest ih =>
      have hRest := ih (Part.place c p)
      rw [Part.hasState_place_iff, or_assoc,
        ← List.mem_append, ← List.flatMap_cons] at hRest
      exact hRest

theorem transition?_placeAll
    (hWell : c.WellFormed)
    (parts : List Part)
    (state label : String) :
    (placeAll c parts).transition? state label =
      (((parts.flatMap Part.stated).reverse.find?
          (Rule.leaves state label)).map
        Rule.transition).or
        (c.transition? state label) := by
  induction parts generalizing c with
  | nil => rfl
  | cons p rest ih =>
      have hRest := ih (Part.place_wellFormed hWell p)
      rw [Part.transition?_place hWell, ← Option.or_assoc,
        ← Option.map_or, ← List.find?_append,
        ← List.reverse_append, ← List.flatMap_cons]
        at hRest
      exact hRest

theorem initial_placeAll
    (hWell : c.WellFormed)
    (parts : List Part) :
    (placeAll c parts).initial =
      c.initial.or
        (parts.flatMap Part.mentions).head? := by
  induction parts generalizing c with
  | nil => simp [placeAll]
  | cons p rest ih =>
      have hRest := ih (Part.place_wellFormed hWell p)
      rw [Part.initial_place hWell, Option.or_assoc,
        ← List.head?_append, ← List.flatMap_cons] at hRest
      exact hRest

end Placing

/- Parts are added up to the first one with a fault. -/
theorem addParts_eq
    (c : Chart G A)
    (parts : List Part) :
    addParts c parts =
      match parts.findSome? Part.fault? with
      | some e => .error (.rule e)
      | none => .ok (placeAll c parts) := by
  induction parts generalizing c with
  | nil => rfl
  | cons p rest ih =>
      rw [addParts, Part.addPart_eq, List.findSome?_cons]
      cases p.fault? with
      | some e => rfl
      | none => exact ih (Part.place c p)

------------------------------------------------------------
-- Calls
------------------------------------------------------------

/- The part that a call adds. -/
def Call.part? : Call → Option Part
  | .part p => some p
  | .initial _ => none

/- The initial state that a call names. -/
def Call.initial? : Call → Option String
  | .part _ => none
  | .initial label => some label

/- The parts are kept in order, and the last name counts. -/
theorem ofCalls_eq
    (calls : List Call) :
    ofCalls calls =
      ⟨calls.filterMap Call.part?,
        (calls.filterMap Call.initial?).getLast?⟩ := by
  have hFollow :
      ∀ a : Assembly,
        calls.foldl follow a =
          ⟨a.parts ++ calls.filterMap Call.part?,
            (calls.filterMap Call.initial?).getLast?.or
              a.initial⟩ := by
    induction calls with
    | nil => simp
    | cons call rest ih =>
        intro a
        rw [List.foldl_cons, ih]
        cases call with
        | part p => simp [follow, Call.part?, Call.initial?]
        | initial label =>
            simp only [follow, Call.part?, Call.initial?,
              List.filterMap_cons, List.getLast?_cons]
            cases (rest.filterMap
              Call.initial?).getLast? <;> rfl
  rw [ofCalls, hFollow empty]
  simp [empty]

------------------------------------------------------------
-- Building
------------------------------------------------------------

/-
  What comes of a chart with the mentioned states: nothing
  if there is none, and otherwise the chart, in which the
  state that is named becomes initial.
-/
def settle
    (named : Option String)
    (mentions : List String)
    (c : Chart G A) :
    Except AssemblyError (Chart G A) :=
  if mentions = [] then
    .error .noStates
  else
    match named with
    | none => .ok c
    | some label =>
        if label ∈ mentions then
          .ok { c with initial := some label }
        else
          .error (.unknownInitial label)

theorem finish_eq_settle
    (a : Assembly)
    {c : Chart G A}
    {mentions : List String}
    (hStates :
      ∀ state,
        c.hasState state = true ↔ state ∈ mentions) :
    a.finish c = settle a.initial mentions c := by
  have hEmpty :
      c.states.isEmpty = true ↔ mentions = [] := by
    rw [c.isEmpty_states_iff,
      List.eq_nil_iff_forall_not_mem]
    simp only [← hStates, Bool.not_eq_true]
  unfold finish settle
  by_cases hNone : mentions = []
  · rw [if_pos (hEmpty.mpr hNone), if_pos hNone]
  · rw [if_neg (mt hEmpty.mp hNone), if_neg hNone]
    cases a.initial with
    | none => rfl
    | some label =>
        simp only [Chart.designate, hStates]
        by_cases hLabel : label ∈ mentions
        · simp [hLabel]
        · simp [hLabel]

section Settling

variable {named : Option String}
variable {mentions : List String}

/- There are three ways in which this can end. -/
theorem settle_cases
    (named : Option String)
    (mentions : List String)
    (c : Chart G A) :
    (mentions = [] ∧
        settle named mentions c = .error .noStates) ∨
      (mentions ≠ [] ∧
        ∃ label, named = some label ∧ label ∉ mentions ∧
          settle named mentions c =
            .error (.unknownInitial label)) ∨
      (mentions ≠ [] ∧
        (∀ label, named = some label → label ∈ mentions) ∧
          settle named mentions c =
            .ok { c with initial := named.or c.initial }) := by
  unfold settle
  by_cases hNone : mentions = []
  · exact Or.inl ⟨hNone, if_pos hNone⟩
  · rw [if_neg hNone]
    cases named with
    | none =>
        refine Or.inr (Or.inr ⟨hNone, ?_, rfl⟩)
        intro label hLabel
        cases hLabel
    | some label =>
        by_cases hLabel : label ∈ mentions
        · refine Or.inr (Or.inr ⟨hNone, ?_, ?_⟩)
          · intro other hOther
            cases hOther
            exact hLabel
          · exact if_pos hLabel
        · exact
            Or.inr (Or.inl
              ⟨hNone, label, rfl, hLabel, if_neg hLabel⟩)

theorem settle_ne_rule
    (c : Chart G A)
    (e : RuleError) :
    settle named mentions c ≠ .error (.rule e) := by
  rcases settle_cases named mentions c with
    ⟨_, hEq⟩ | ⟨_, label, _, _, hEq⟩ | ⟨_, _, hEq⟩ <;>
      simp [hEq]

theorem settle_eq_noStates_iff
    (c : Chart G A) :
    settle named mentions c = .error .noStates ↔
      mentions = [] := by
  rcases settle_cases named mentions c with
    ⟨hNone, hEq⟩ | ⟨hSome, label, _, _, hEq⟩ |
      ⟨hSome, _, hEq⟩
  · exact ⟨fun _ => hNone, fun _ => hEq⟩
  · simp [hEq, hSome]
  · simp [hEq, hSome]

theorem settle_eq_unknownInitial_iff
    (c : Chart G A)
    {label : String} :
    settle named mentions c =
        .error (.unknownInitial label) ↔
      mentions ≠ [] ∧ named = some label ∧
        label ∉ mentions := by
  rcases settle_cases named mentions c with
    ⟨hNone, hEq⟩ | ⟨hSome, other, hNamed, hOther, hEq⟩ |
      ⟨hSome, hNamed, hEq⟩
  · rw [hEq]
    simp [hNone]
  · rw [hEq, hNamed]
    constructor
    · intro hSame
      cases hSame
      exact ⟨hSome, rfl, hOther⟩
    · rintro ⟨_, hSame, _⟩
      cases hSame
      rfl
  · rw [hEq]
    constructor
    · intro hSame
      cases hSame
    · rintro ⟨_, hLabel, hMissing⟩
      exact absurd (hNamed label hLabel) hMissing

/- If all is well, only the initial state may change. -/
theorem settle_eq_ok
    (c : Chart G A)
    (hSome : mentions ≠ [])
    (hNamed :
      ∀ label, named = some label → label ∈ mentions) :
    settle named mentions c =
      .ok { c with initial := named.or c.initial } := by
  rcases settle_cases named mentions c with
    ⟨hNone, _⟩ | ⟨_, label, hLabel, hMissing, _⟩ |
      ⟨_, _, hEq⟩
  · exact absurd hNone hSome
  · exact absurd (hNamed label hLabel) hMissing
  · exact hEq

end Settling

/- What calls build, told from the parts that they add. -/
theorem build_ofCalls
    (calls : List Call) :
    (ofCalls calls).build =
      let parts := calls.filterMap Call.part?
      match parts.findSome? Part.fault? with
      | some e => .error (.rule e)
      | none =>
          settle (calls.filterMap Call.initial?).getLast?
            (parts.flatMap Part.mentions)
            (placeAll (Chart.empty : Chart G A) parts) := by
  rw [ofCalls_eq]
  unfold build
  simp only [addParts_eq]
  cases (calls.filterMap Call.part?).findSome?
      Part.fault? with
  | some e => rfl
  | none =>
      apply finish_eq_settle
      intro state
      simp [hasState_placeAll_iff]

/-
  Two parts that are added in the same way can replace each
  other among any calls.
-/
theorem build_congr
    {p p' : Part}
    (hSame :
      ∀ c : Chart G A, addPart c p = addPart c p')
    (before after : List Call) :
    (ofCalls (before ++ .part p :: after)).build =
      ((ofCalls (before ++ .part p' :: after)).build :
        Except AssemblyError (Chart G A)) := by
  have hParts :
      ∀ (first rest : List Part) (c : Chart G A),
        addParts c (first ++ p :: rest) =
          addParts c (first ++ p' :: rest) := by
    intro first rest
    induction first with
    | nil =>
        intro c
        simp only [List.nil_append, addParts, hSame]
    | cons q first ih =>
        intro c
        simp only [List.cons_append, addParts, ih]
  unfold build finish
  simp [ofCalls_eq, Call.part?, Call.initial?, hParts]

/-
  What any sequence of calls builds. The first text with a
  statement that is not a rule is reported, with the number
  of rules before it in that text. Otherwise nothing is
  built if no state is mentioned, and neither if the last
  initial state that was named is not mentioned. Otherwise
  the states are those that are mentioned, the last rule for
  a label that leaves a state decides where it leads to, and
  the initial state is the last one that was named or else
  the first one that is mentioned. A transition may as well
  be written as a rule.
-/
theorem build_from_calls
    (calls : List Call) :
    let parts := calls.filterMap Call.part?
    let named := (calls.filterMap Call.initial?).getLast?
    let mentions := parts.flatMap Part.mentions
    let rules := parts.flatMap Part.stated
    let built : Except AssemblyError (Chart G A) :=
      (ofCalls calls).build
    (∀ e,
      built = .error (.rule e) ↔
        parts.findSome? Part.fault? = some e) ∧
      (parts.findSome? Part.fault? = none →
        (built = .error .noStates ↔ mentions = []) ∧
          (∀ label,
            built = .error (.unknownInitial label) ↔
              mentions ≠ [] ∧ named = some label ∧
                label ∉ mentions) ∧
          (mentions ≠ [] →
            (∀ label,
              named = some label → label ∈ mentions) →
              ∃ d,
                built = .ok d ∧
                  (∀ state,
                    d.hasState state = true ↔
                      state ∈ mentions) ∧
                  (∀ state label,
                    d.transition? state label =
                      (rules.reverse.find?
                        (Rule.leaves state label)).map
                          Rule.transition) ∧
                  d.initial = named.or mentions.head?)) ∧
      ∀ before after (r : Rule),
        r.Textual →
          calls =
              before ++
                .part (.transition r.source r.label
                  r.destination) :: after →
            built =
              (ofCalls
                (before ++
                  .part (.rules r.text) :: after)).build := by
  intro parts named mentions rules built
  have hBuilt :
      built =
        match parts.findSome? Part.fault? with
        | some e => .error (.rule e)
        | none =>
            settle named mentions
              (placeAll Chart.empty parts) :=
    build_ofCalls calls
  refine ⟨?_, ?_, ?_⟩
  · intro e
    rw [hBuilt]
    cases parts.findSome? Part.fault? with
    | some first => simp
    | none => simpa using settle_ne_rule _ e
  · intro hSound
    rw [hSound] at hBuilt
    refine ⟨?_, ?_, ?_⟩
    · rw [hBuilt]
      exact settle_eq_noStates_iff _
    · intro label
      rw [hBuilt]
      exact settle_eq_unknownInitial_iff _
    · intro hSome hNamed
      have hEmpty : (Chart.empty : Chart G A).WellFormed :=
        .empty
      refine
        ⟨_, hBuilt.trans (settle_eq_ok _ hSome hNamed),
          ?_, ?_, ?_⟩
      · intro state
        exact
          (hasState_placeAll_iff _ parts).trans
            (by simp [mentions])
      · intro state label
        exact
          (transition?_placeAll hEmpty parts state
            label).trans (by simp [rules])
      · exact
          congrArg named.or
            ((initial_placeAll hEmpty parts).trans
              (Option.none_or))
  · intro before after r hTextual hCalls
    have hSame :
        ∀ c : Chart G A,
          addPart c
              (.transition r.source r.label r.destination) =
            addPart c (.rules r.text) :=
      fun c => (Part.addPart_text c hTextual).symm
    simp only [built, hCalls]
    exact build_congr hSame before after

/-
  A state is declared, a transition is stated and replaced
  by a text, and the initial state is named twice.
-/
def mixedCalls : List Call :=
  [ .initial "ghost", .part (.state "idle"),
    .part (.transition "a" "go" "b"),
    .part (.rules "a -> c (go); c -> a (back)"),
    .initial "c" ]

/- The same calls, with the transition written as a rule. -/
def textualCalls : List Call :=
  [ .initial "ghost", .part (.state "idle"),
    .part (.rules "a -> b (go)"),
    .part (.rules "a -> c (go); c -> a (back)"),
    .initial "c" ]

/- Both build a chart that starts in the second name. -/
theorem build_from_calls_mixed :
    ∃ d : Chart Unit Unit,
      (ofCalls mixedCalls).build = .ok d ∧
        (ofCalls textualCalls).build = .ok d ∧
        d.initial = some "c" ∧
        d.hasState "idle" = true ∧
        d.hasState "ghost" = false ∧
        (d.transition? "a" "go").map
          Transition.destination = some "c" := by
  rcases build_from_calls mixedCalls with
    ⟨_, hSound, hWritten⟩
  have hFaults :
      (mixedCalls.filterMap Call.part?).findSome?
        Part.fault? = none := by
    rfl
  rcases hSound hFaults with ⟨_, _, hBuilt⟩
  have hSome :
      (mixedCalls.filterMap Call.part?).flatMap
        Part.mentions ≠ [] := by
    decide
  rcases hBuilt hSome (by decide) with
    ⟨d, hEq, hStates, hTransitions, hInitial⟩
  have hRule : Rule.Textual ⟨"a", "b", "go"⟩ :=
    ⟨by decide, by decide, by decide⟩
  have hSame :=
    hWritten [.initial "ghost", .part (.state "idle")]
      [ .part (.rules "a -> c (go); c -> a (back)"),
        .initial "c" ]
      ⟨"a", "b", "go"⟩ hRule rfl
  refine ⟨d, hEq, hSame.symm.trans hEq, ?_, ?_, ?_, ?_⟩
  · rw [hInitial]
    rfl
  · rw [hStates]
    decide
  · rw [Bool.eq_false_iff, ne_eq, hStates]
    decide
  · rw [hTransitions]
    rfl

end Assembly

end Statechart
