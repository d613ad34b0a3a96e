import Statechart.Proofs.Chart.Revision
import Statechart.Proofs.Machine.Fleet

/-
  This file states to which charts a machine can be bound,
  and why it cannot be bound to the others. A transition
  that leads to no registered state is reported, the least
  one if there are several; apart from that only the chart
  without states is refused.

  Rules and labels that are designated leave no transition
  without a destination, so every chart that was read or
  assembled from nothing can be walked.

  Key definitions include:
    * `Chart.Dangles`
    * `Chart.LeastDangling`

  Key theorems include:
    * `Chart.WellFormed.validate_eq_error_iff`
    * `Chart.WellFormed.closed_applyAll`
    * `Assembly.runnable_of_build`
    * `Machine.bind_decides_runnable`
-/

namespace Statechart

namespace Chart

variable {G A : Type}
variable {c d : Chart G A}

------------------------------------------------------------
-- Dangling Transitions
------------------------------------------------------------

/- A transition leads to a label without a state. -/
def Dangles
    (c : Chart G A)
    (state label destination : String) : Prop :=
  ∃ t,
    c.transition? state label = some t ∧
      t.destination = destination ∧
      c.hasState destination = false

/-
  Among the dangling transitions, this is the least one in
  the order of bytes: by the label of the state first, and
  then by the label of the transition.
-/
structure LeastDangling
    (c : Chart G A)
    (state label destination : String) : Prop where
  dangles : c.Dangles state label destination
  least :
    ∀ {state' label' destination' : String},
      c.Dangles state' label' destination' →
        Text.bytes state < Text.bytes state' ∨
          state = state' ∧
            (Text.bytes label < Text.bytes label' ∨
              label = label')

theorem closed_iff :
    c.Closed ↔
      ∀ state label destination,
        ¬ c.Dangles state label destination := by
  constructor
  · rintro hClosed state label _ ⟨t, hFound, rfl, hNone⟩
    rw [hClosed state label t hFound] at hNone
    cases hNone
  · intro hNone state label t hFound
    apply Bool.not_eq_false _ |>.mp
    intro hMissing
    exact
      hNone state label t.destination
        ⟨t, hFound, rfl, hMissing⟩

/- There is at most one least dangling transition. -/
theorem LeastDangling.unique
    {state label destination : String}
    {state' label' destination' : String}
    (hLeast : c.LeastDangling state label destination)
    (hLeast' : c.LeastDangling state' label' destination') :
    state = state' ∧ label = label' ∧
      destination = destination' := by
  have hLabels : state = state' ∧ label = label' := by
    rcases hLeast.least hLeast'.dangles with
      hLess | ⟨rfl, hLess | rfl⟩
    · rcases hLeast'.least hLeast.dangles with
        hMore | ⟨rfl, _⟩
      · exact absurd hMore (List.lt_asymm hLess)
      · exact absurd hLess (List.lt_irrefl _)
    · rcases hLeast'.least hLeast.dangles with
        hMore | ⟨_, hMore | rfl⟩
      · exact absurd hMore (List.lt_irrefl _)
      · exact absurd hMore (List.lt_asymm hLess)
      · exact absurd hLess (List.lt_irrefl _)
    · exact ⟨rfl, rfl⟩
  rcases hLabels with ⟨rfl, rfl⟩
  rcases hLeast.dangles with ⟨t, hFound, rfl, _⟩
  rcases hLeast'.dangles with ⟨t', hFound', rfl, _⟩
  rw [hFound] at hFound'
  cases hFound'
  exact ⟨rfl, rfl, rfl⟩

namespace WellFormed

/- The first dangling edge of the list is the least one. -/
theorem leastDangling_of_firstDangling?
    (hWell : c.WellFormed)
    {s : State G A}
    {t : Transition G A}
    (hFirst : c.firstDangling? = some (s, t)) :
    c.LeastDangling s.label t.label t.destination := by
  rcases List.find?_eq_some_iff_append.mp hFirst with
    ⟨hMissing, before, after, hEdges, hBefore⟩
  have hOrder := hWell.edges_ascending
  rw [hEdges, List.pairwise_append] at hOrder
  have hAfter := (List.pairwise_cons.mp hOrder.2.1).1
  have hEdge : (s, t) ∈ c.edges := by
    rw [hEdges]
    simp
  refine ⟨⟨t, ?_, rfl, by simpa using hMissing⟩, ?_⟩
  · exact (hWell.mem_edges_iff_labels.mp hEdge).2
  · rintro state' label' _ ⟨t', hFound', rfl, hMissing'⟩
    rcases hWell.exists_mem_edges hFound' with
      ⟨s', hEdge', rfl, rfl⟩
    rw [hEdges, List.mem_append, List.mem_cons] at hEdge'
    -- Edges before the first dangling one do not dangle.
    rcases hEdge' with hMember | hSame | hMember
    · have hRegistered := hBefore _ hMember
      simp [hMissing'] at hRegistered
    · cases hSame
      exact Or.inr ⟨rfl, Or.inr rfl⟩
    · rcases hAfter _ hMember with hLess | ⟨hEq, hLess⟩
      · exact Or.inl (Text.bytes_lt_iff.mpr hLess)
      · exact
          Or.inr
            ⟨hEq, Or.inl (Text.bytes_lt_iff.mpr hLess)⟩

/-
  A chart is closed, or its validation reports the least
  dangling transition.
-/
theorem validate_cases
    (hWell : c.WellFormed) :
    c.Closed ∧ c.validate = .ok () ∨
      ∃ state label destination,
        c.LeastDangling state label destination ∧
          c.validate =
            .error
              (.danglingTransition state label
                destination) := by
  cases hFirst : c.firstDangling? with
  | none =>
      have hValid : c.validate = .ok () := by
        simp only [validate, hFirst]
      exact
        Or.inl ⟨c.validate_eq_ok_iff.mp hValid, hValid⟩
  | some e =>
      obtain ⟨s, t⟩ := e
      have hLeast :=
        hWell.leastDangling_of_firstDangling? hFirst
      refine Or.inr ⟨_, _, _, hLeast, ?_⟩
      simp only [validate, hFirst]

theorem validate_eq_error_iff
    (hWell : c.WellFormed)
    {state label destination : String} :
    c.validate =
        .error
          (.danglingTransition state label destination) ↔
      c.LeastDangling state label destination := by
  rcases hWell.validate_cases with
    ⟨hClosed, hValid⟩ | ⟨_, _, _, hLeast, hError⟩
  · rw [hValid]
    constructor
    · intro hError
      cases hError
    · intro hLeast
      exact
        absurd hLeast.dangles (closed_iff.mp hClosed _ _ _)
  · rw [hError]
    constructor
    · intro hSame
      cases hSame
      exact hLeast
    · intro hLeast'
      rcases hLeast.unique hLeast' with ⟨rfl, rfl, rfl⟩
      rfl

/- Where a transition dangles, one of them is the least. -/
theorem exists_leastDangling
    (hWell : c.WellFormed)
    {state label destination : String}
    (hDangles : c.Dangles state label destination) :
    ∃ state label destination,
      c.LeastDangling state label destination := by
  rcases hWell.validate_cases with
    ⟨hClosed, _⟩ | ⟨state, label, destination, hLeast, _⟩
  · exact absurd hDangles (closed_iff.mp hClosed _ _ _)
  · exact ⟨state, label, destination, hLeast⟩

end WellFormed

------------------------------------------------------------
-- Closed Charts
------------------------------------------------------------

theorem Closed.empty : (Chart.empty : Chart G A).Closed := by
  intro state label t hFound
  simp at hFound

theorem Closed.ensureState
    (hClosed : c.Closed)
    (created : String) :
    (c.ensureState created).Closed := by
  intro state label t hFound
  rw [transition?_ensureState] at hFound
  rw [hasState_ensureState_iff]
  exact Or.inr (hClosed state label t hFound)

theorem Closed.designate
    (hClosed : c.Closed)
    {label : String}
    (hDesignated : c.designate label = .ok d) :
    d.Closed := by
  rcases designate_eq_ok_iff.mp hDesignated with ⟨_, rfl⟩
  exact hClosed

/- A rule registers the state that it leads to. -/
theorem WellFormed.closed_applyAll
    (hWell : c.WellFormed)
    (hClosed : c.Closed)
    (rules : List Rule) :
    (c.applyAll rules).Closed := by
  intro state label t hFound
  rw [hasState_applyAll_iff]
  rw [hWell.transition?_applyAll, Option.or_eq_some_iff]
    at hFound
  rcases hFound with hRule | ⟨_, hOld⟩
  · rcases Option.map_eq_some_iff.mp hRule with
      ⟨r, hLast, rfl⟩
    have hMember := (Rule.mem_of_find?_reverse hLast).1
    exact Or.inr ⟨r, hMember, Or.inr rfl⟩
  · exact Or.inl (hClosed state label t hOld)

theorem WellFormed.closed_place
    (hWell : c.WellFormed)
    (hClosed : c.Closed)
    (p : Assembly.Part) :
    (Assembly.Part.place c p).Closed := by
  cases p with
  | state label => exact hClosed.ensureState label
  | transition origin label target =>
      exact hWell.closed_applyAll hClosed _
  | rules text => exact hWell.closed_applyAll hClosed _

theorem WellFormed.closed_placeAll
    (hWell : c.WellFormed)
    (hClosed : c.Closed)
    (parts : List Assembly.Part) :
    (Assembly.placeAll c parts).Closed := by
  induction parts generalizing c with
  | nil => exact hClosed
  | cons p rest ih =>
      exact
        ih (Assembly.Part.place_wellFormed hWell p)
          (hWell.closed_place hClosed p)

/- Reading a text leaves no transition dangling. -/
theorem WellFormed.closed_read
    (hWell : c.WellFormed)
    (hClosed : c.Closed)
    (text : String) :
    (c.read text).chart.Closed := by
  rw [chart_read_eq_place]
  exact hWell.closed_place hClosed _

theorem closed_of_ofRules
    {text : String}
    (hRead : ofRules text = .ok c) :
    c.Closed := by
  rw [eq_read_of_ofRules hRead]
  exact WellFormed.empty.closed_read .empty text

/- A chart has a state if and only if it is not empty. -/
theorem size_ne_zero_iff
    (c : Chart G A) :
    c.size ≠ 0 ↔ ∃ state, c.hasState state = true := by
  have hSize : c.size = 0 ↔ c.states.isEmpty = true := by
    simp [size, LabelMap.size, LabelMap.isEmpty]
  rw [ne_eq, hSize, c.isEmpty_states_iff,
    Classical.not_forall]
  simp only [Bool.not_eq_false]

theorem WellFormed.initial_eq_none_iff
    (hWell : c.WellFormed) :
    c.initial = none ↔ c.size = 0 := by
  rw [← hWell.stateList_eq_nil_iff]
  simp [stateList, LabelMap.values, size, LabelMap.size]

end Chart

/- What an assembly builds is closed and has a state. -/
theorem Assembly.runnable_of_build
    {G A : Type}
    {a : Assembly}
    {c : Chart G A}
    (hBuilt : a.build = .ok c) :
    c.Closed ∧ c.size ≠ 0 := by
  unfold build at hBuilt
  rw [addParts_eq] at hBuilt
  cases hFault : a.parts.findSome? Part.fault? with
  | some e =>
      rw [hFault] at hBuilt
      cases hBuilt
  | none =>
      rw [hFault] at hBuilt
      have hStates :
          ∀ state,
            (placeAll (Chart.empty : Chart G A)
                a.parts).hasState state = true ↔
              state ∈ a.parts.flatMap Part.mentions := by
        intro state
        simp [hasState_placeAll_iff]
      have hClosed :
          (placeAll (Chart.empty : Chart G A)
            a.parts).Closed :=
        Chart.WellFormed.empty.closed_placeAll .empty a.parts
      simp only [a.finish_eq_settle hStates] at hBuilt
      rcases settle_cases a.initial
          (a.parts.flatMap Part.mentions)
          (placeAll (Chart.empty : Chart G A) a.parts) with
        ⟨_, hEq⟩ | ⟨_, _, _, _, hEq⟩ | ⟨hSome, _, hEq⟩
      · rw [hEq] at hBuilt
        cases hBuilt
      · rw [hEq] at hBuilt
        cases hBuilt
      · rw [hEq] at hBuilt
        cases hBuilt
        refine ⟨hClosed, ?_⟩
        rcases List.exists_mem_of_ne_nil _ hSome with
          ⟨state, hMember⟩
        apply (Chart.size_ne_zero_iff _).mpr
        exact ⟨state, (hStates state).mpr hMember⟩

------------------------------------------------------------
-- Binding
------------------------------------------------------------

namespace Machine

variable {G A : Type}
variable {c : Chart G A}

/- A closed chart with a state can be bound to. -/
theorem exists_bind_of_runnable
    (hBuilt : c.Built)
    (hClosed : c.Closed)
    (hSize : c.size ≠ 0)
    (settings : Settings) :
    ∃ s m,
      c.initialState? = some s ∧
        bind settings c = .ok m ∧
        m.current = s.label ∧
        m.settings = settings ∧
        m.journal.moves = [] := by
  have hWell := hBuilt.wellFormed
  cases hInitial : c.initial with
  | none =>
      exact
        absurd (hWell.initial_eq_none_iff.mp hInitial) hSize
  | some label =>
      have hLabel := hWell.map_label_initialState?
      rw [hInitial] at hLabel
      rcases Option.map_eq_some_iff.mp hLabel with
        ⟨s, hState, rfl⟩
      have hBound :
          bind settings c = .ok (start settings s.label) :=
        hWell.bind_eq_ok_iff.mpr
          ⟨hClosed, s.label, hInitial, rfl⟩
      exact ⟨s, _, hState, hBound, rfl, rfl, rfl⟩

/- A machine is refused for what validation reports. -/
theorem bind_eq_chart_error_iff
    {settings : Settings}
    {e : ChartError} :
    bind settings c = .error (.chart e) ↔
      c.validate = .error e := by
  unfold bind
  cases c.validate with
  | error e' => simp
  | ok u => cases c.initialState? <;> simp

/- The dangling transition that is reported is the least. -/
theorem bind_eq_dangling_iff
    (hBuilt : c.Built)
    {settings : Settings}
    {state label destination : String} :
    bind settings c =
        .error
          (.chart
            (.danglingTransition state label destination)) ↔
      c.LeastDangling state label destination := by
  rw [bind_eq_chart_error_iff]
  exact hBuilt.wellFormed.validate_eq_error_iff

/- One is reported if and only if there is one. -/
theorem exists_bind_eq_dangling_iff
    (hBuilt : c.Built)
    {settings : Settings} :
    (∃ state label destination,
      bind settings c =
        .error
          (.chart
            (.danglingTransition state label
              destination))) ↔
      ∃ state label t,
        c.transition? state label = some t ∧
          c.hasState t.destination = false := by
  simp only [bind_eq_dangling_iff hBuilt]
  constructor
  · rintro ⟨state, label, _, hLeast⟩
    rcases hLeast.dangles with ⟨t, hFound, rfl, hMissing⟩
    exact ⟨state, label, t, hFound, hMissing⟩
  · rintro ⟨state, label, t, hFound, hMissing⟩
    exact
      hBuilt.wellFormed.exists_leastDangling
        ⟨t, hFound, rfl, hMissing⟩

/- A closed chart is refused if it has no states. -/
theorem bind_eq_noInitialState_iff
    (hBuilt : c.Built)
    (hClosed : c.Closed)
    {settings : Settings} :
    bind settings c = .error .noInitialState ↔
      c.size = 0 := by
  have hWell := hBuilt.wellFormed
  constructor
  · intro hRefused
    apply Decidable.byContradiction
    intro hSize
    rcases
        exists_bind_of_runnable hBuilt hClosed hSize
          settings with
      ⟨_, _, _, hBound, _⟩
    rw [hRefused] at hBound
    cases hBound
  · intro hSize
    have hInitial := hWell.initial_eq_none_iff.mpr hSize
    have hValid := c.validate_eq_ok_iff.mpr hClosed
    simp only [bind, hValid, Chart.initialState?, hInitial]

/-
  Binding decides which charts can be walked. It reports a
  dangling transition if and only if there is one, and then
  the least; a closed chart is refused if and only if it has
  no states; and otherwise the machine starts in the initial
  state with an empty journal. Charts that were read from a
  text can be walked unless they are empty, and charts that
  were assembled can be walked in any case. No text and no
  label, be it accepted or not, leaves a transition dangling
  where none was.
-/
theorem bind_decides_runnable
    (hBuilt : c.Built)
    (settings : Settings) :
    ((∃ state label destination,
        bind settings c =
          .error
            (.chart
              (.danglingTransition state label
                destination))) ↔
        ∃ state label t,
          c.transition? state label = some t ∧
            c.hasState t.destination = false) ∧
      (∀ state label destination,
        bind settings c =
            .error
              (.chart
                (.danglingTransition state label
                  destination)) ↔
          c.LeastDangling state label destination) ∧
      (c.Closed →
        (bind settings c = .error .noInitialState ↔
          c.size = 0) ∧
        (c.size ≠ 0 →
          ∃ s m,
            c.initialState? = some s ∧
              bind settings c = .ok m ∧
              m.current = s.label ∧
              m.settings = settings ∧
              m.journal.moves = []) ∧
        (∀ label, (c.ensureState label).Closed) ∧
        (∀ label, (c.change (.designate label)).Closed) ∧
        ∀ text, (c.read text).chart.Closed) ∧
      (∀ (text : String) (d : Chart G A),
        Chart.ofRules text = .ok d →
          d.size ≠ 0 → ∃ m, bind settings d = .ok m) ∧
      (∀ (text initial : String) (d : Chart G A),
        Chart.ofRulesFrom text initial = .ok d →
          ∃ m, bind settings d = .ok m) ∧
      ∀ (calls : List Assembly.Call) (d : Chart G A),
        (Assembly.ofCalls calls).build = .ok d →
          ∃ m, bind settings d = .ok m := by
  have hWell := hBuilt.wellFormed
  have hRunnable :
      ∀ d : Chart G A,
        d.Built →
          d.Closed →
            d.size ≠ 0 → ∃ m, bind settings d = .ok m := by
    intro d hBuilt' hClosed' hSize'
    rcases
        exists_bind_of_runnable hBuilt' hClosed' hSize'
          settings with
      ⟨_, m, _, hBound, _⟩
    exact ⟨m, hBound⟩
  refine
    ⟨exists_bind_eq_dangling_iff hBuilt,
      fun _ _ _ => bind_eq_dangling_iff hBuilt,
      ?_, ?_, ?_, ?_⟩
  · intro hClosed
    refine ⟨?_, ?_, ?_, ?_, ?_⟩
    · exact bind_eq_noInitialState_iff hBuilt hClosed
    · intro hSize
      exact
        exists_bind_of_runnable hBuilt hClosed hSize settings
    · exact hClosed.ensureState
    · intro label
      simp only [Chart.change]
      split
      · exact hClosed
      · rename_i hDesignated
        exact hClosed.designate hDesignated
    · exact hWell.closed_read hClosed
  · intro text d hRead hSize
    exact
      hRunnable d (.of_ofRules hRead)
        (Chart.closed_of_ofRules hRead) hSize
  · intro text initial d hRead
    rcases Assembly.runnable_of_build hRead with
      ⟨hClosed, hSize⟩
    exact hRunnable d (.of_build hRead) hClosed hSize
  · intro calls d hMade
    rcases Assembly.runnable_of_build hMade with
      ⟨hClosed, hSize⟩
    exact hRunnable d (.of_build hMade) hClosed hSize

/-
  Three states, of which the first and the last have a
  dangling transition, and the first has two.
-/
def frayed : Chart Unit Unit :=
  (((Chart.empty.connect "b" "a" "go").addTransition "b"
    (.plain "up" "roof")).addTransition "b"
      (.plain "down" "cellar")).addTransition "a"
        (.plain "up" "roof")

/- The first state is reported with its only transition. -/
theorem bind_decides_runnable_frayed :
    frayed.Built ∧
      frayed.LeastDangling "a" "up" "roof" ∧
      bind .standard frayed =
        .error
          (.chart (.danglingTransition "a" "up" "roof")) ∧
      ∃ m,
        bind .standard
            ((Chart.empty : Chart Unit Unit).connect "b" "a"
              "go") =
          .ok m := by
  have hBuilt : frayed.Built :=
    .addTransition _ _ (.addTransition _ _
      (.addTransition _ _
        (Chart.Built.empty.connect "b" "a" "go")))
  rcases bind_decides_runnable hBuilt .standard with
    ⟨_, hLeast, _, hRead, _⟩
  have hRefused :
      bind .standard frayed =
        .error
          (.chart (.danglingTransition "a" "up" "roof")) :=
    rfl
  refine ⟨hBuilt, (hLeast _ _ _).mp hRefused, hRefused, ?_⟩
  exact hRead "b -> a (go)" _ rfl (by decide)

end Machine

end Statechart
