import Statechart.Proofs.Chart.Hooks
import Statechart.Proofs.Rule.Reading

/-
  This file states what reading a text does to a chart that
  may hold states and hooks already. The rules with which
  the statements of the text start are applied, and nothing
  after them. They replace the transitions that they are
  about, and all other transitions and all actions of states
  stay.

  Key definitions include:
    * `Rule.isFault`
    * `Rule.leading`
    * `Chart.ChangedBy`

  Key theorems include:
    * `Chart.read_eq`
    * `Chart.WellFormed.changedBy_applyAll`
    * `Chart.ChangedBy.unique`
    * `Chart.read_applies_leading_rules`
-/

namespace Statechart

------------------------------------------------------------
-- Leading Rules
------------------------------------------------------------

namespace Rule

/- A statement that is not a rule is a fault. -/
def isFault (statement : String) : Bool :=
  (parse? statement).isNone

/- The rules before the first fault. -/
def leading (statements : List String) : List Rule :=
  (statements.take
    (statements.findIdx isFault)).filterMap parse?

/- Every statement before the first fault is a rule. -/
theorem map_parse?_take
    (statements : List String) :
    (statements.take
        (statements.findIdx isFault)).map parse? =
      (leading statements).map some := by
  unfold leading
  induction statements with
  | nil => rfl
  | cons statement rest ih =>
      rw [List.findIdx_cons]
      cases hRule : parse? statement with
      | none => simp [isFault, hRule]
      | some r => simpa [isFault, hRule] using ih

theorem length_leading
    (statements : List String) :
    (leading statements).length =
      statements.findIdx isFault := by
  have hLengths :=
    congrArg List.length (map_parse?_take statements)
  have hBound :
      statements.findIdx isFault ≤ statements.length :=
    List.findIdx_le_length
  rw [List.length_map, List.length_map, List.length_take]
    at hLengths
  omega

/- The first fault is not a rule. -/
theorem parse?_getElem_findIdx
    {statements : List String}
    (hFault :
      statements.findIdx isFault < statements.length) :
    parse? statements[statements.findIdx isFault] =
      none :=
  Option.isNone_iff_eq_none.mp
    (List.findIdx_getElem (w := hFault))

end Rule

------------------------------------------------------------
-- Reading
------------------------------------------------------------

namespace Chart

variable {G A : Type}
variable {c d : Chart G A}

/-
  The number of rules read, unless there is a fault, which
  is reported with the number of rules before it.
-/
def outcomeOf
    (statements : List String) : Except RuleError Nat :=
  let count := statements.findIdx Rule.isFault
  match statements[count]? with
  | none => .ok statements.length
  | some statement => .error ⟨count, statement⟩

theorem outcomeOf_of_eq
    {list : List String}
    (hCount : list.findIdx Rule.isFault = list.length) :
    outcomeOf list = .ok list.length := by
  have hEnd :
      list[list.findIdx Rule.isFault]? = none :=
    List.getElem?_eq_none_iff.mpr
      (Nat.le_of_eq hCount.symm)
  simp only [outcomeOf, hEnd]

theorem outcomeOf_of_lt
    {list : List String}
    (hFault : list.findIdx Rule.isFault < list.length) :
    outcomeOf list =
      .error
        ⟨list.findIdx Rule.isFault,
          list[list.findIdx Rule.isFault]⟩ := by
  simp only [outcomeOf, List.getElem?_eq_getElem hFault]

/- Reading applies the rules before the first fault. -/
theorem read_eq
    (c : Chart G A)
    (text : String) :
    c.read text =
      ⟨c.applyAll (Rule.leading (statements text)),
        outcomeOf (statements text)⟩ := by
  generalize hStatements : statements text = list
  have hRead :=
    c.readFrom_append 0 (Rule.map_parse?_take list)
      (list.drop (list.findIdx Rule.isFault))
  rw [List.take_append_drop, Nat.zero_add,
    Rule.length_leading] at hRead
  unfold read
  rw [hStatements, hRead]
  rcases Nat.lt_or_ge (list.findIdx Rule.isFault)
      list.length with
    hFault | hEnd
  · rw [List.drop_eq_getElem_cons hFault,
      outcomeOf_of_lt hFault]
    simp only [readFrom, Rule.parse?_getElem_findIdx hFault]
  · have hCount :
        list.findIdx Rule.isFault = list.length :=
      Nat.le_antisymm List.findIdx_le_length hEnd
    rw [List.drop_eq_nil_of_le hEnd, hCount,
      outcomeOf_of_eq hCount]
    rfl

------------------------------------------------------------
-- Actions of States
------------------------------------------------------------

/-
  A rule does not touch what a plain state does not have and
  what attaching a transition to a state does not change.
-/
theorem bind_state?_applyAll
    {β : Type}
    {f : State G A → Option β}
    (hPlain : ∀ label, f (State.plain label) = none)
    (hAttach : ∀ s t, f (s.attach t) = f s)
    (c : Chart G A)
    (rules : List Rule)
    (state : String) :
    ((c.applyAll rules).state? state).bind f =
      (c.state? state).bind f := by
  -- A rule creates its two states and attaches to one.
  have hEnsure :
      ∀ (c : Chart G A) (created : String),
        ((c.ensureState created).state? state).bind f =
          (c.state? state).bind f := by
    intro c created
    rw [state?_ensureState]
    split
    · rename_i hNew
      rw [c.state?_eq_none_iff.mpr hNew.2]
      exact hPlain state
    · rfl
  induction rules generalizing c with
  | nil => rfl
  | cons r rest ih =>
      rw [applyAll_cons, ih]
      unfold applyRule connect
      rw [state?_addTransition]
      split
      · rw [← hEnsure c r.source,
          ← hEnsure (c.ensureState r.source) r.destination]
        cases ((c.ensureState r.source).ensureState
            r.destination).state? state with
        | none => rfl
        | some s => exact hAttach s _
      · rw [hEnsure, hEnsure]

/- States keep their actions, and new states have none. -/
theorem entryOf_applyAll
    (c : Chart G A)
    (rules : List Rule)
    (state : String) :
    (c.applyAll rules).entryOf state = c.entryOf state := by
  rw [entryOf_eq, entryOf_eq]
  exact
    bind_state?_applyAll (fun _ => rfl) (fun _ _ => rfl) _ _
      _

theorem exitOf_applyAll
    (c : Chart G A)
    (rules : List Rule)
    (state : String) :
    (c.applyAll rules).exitOf state = c.exitOf state := by
  rw [exitOf_eq, exitOf_eq]
  exact
    bind_state?_applyAll (fun _ => rfl) (fun _ _ => rfl) _ _
      _

------------------------------------------------------------
-- Charts Changed by Rules
------------------------------------------------------------

/-
  A chart is changed by rules into another one if

    * the states that the rules mention are registered and
      no others,
    * where rules are about a transition, it is the plain
      transition of the last one of them,
    * all other transitions stay, with their hooks,
    * states keep their actions, and new ones have none,
    * the source of the first rule becomes initial unless
      there was an initial state.
-/
structure ChangedBy
    (c : Chart G A)
    (rules : List Rule)
    (d : Chart G A) : Prop where
  states :
    ∀ state,
      d.hasState state = true ↔
        c.hasState state = true ∨
          ∃ r ∈ rules,
            r.source = state ∨ r.destination = state
  replaced :
    ∀ earlier (r : Rule) later,
      rules = earlier ++ r :: later →
        (∀ r' ∈ later,
          r'.leaves r.source r.label = false) →
            d.transition? r.source r.label =
              some
                { label := r.label
                  source := some r.source
                  destination := r.destination
                  gate := none
                  action := none }
  others :
    ∀ state label,
      (∀ r ∈ rules, r.leaves state label = false) →
        d.transition? state label =
          c.transition? state label
  kept :
    ∀ state,
      c.hasState state = true →
        d.entryOf state = c.entryOf state ∧
          d.exitOf state = c.exitOf state
  created :
    ∀ state,
      c.hasState state = false →
        d.entryOf state = none ∧ d.exitOf state = none
  initial :
    d.initial = c.initial.or (rules.head?.map Rule.source)

theorem WellFormed.changedBy_applyAll
    (hWell : c.WellFormed)
    (rules : List Rule) :
    c.ChangedBy rules (c.applyAll rules) where
  states _ := c.hasState_applyAll_iff rules
  replaced := by
    intro earlier r later hRules hLast
    have hLater :
        later.reverse.find?
          (Rule.leaves r.source r.label) = none :=
      Rule.find?_reverse_eq_none_iff.mpr hLast
    have hLeaves :
        r.leaves r.source r.label = true :=
      Rule.leaves_iff.mpr ⟨rfl, rfl⟩
    have hFound :
        rules.reverse.find?
          (Rule.leaves r.source r.label) = some r := by
      simp [hRules, List.find?_append, hLater, hLeaves]
    rw [hWell.transition?_applyAll, hFound]
    rfl
  others := by
    intro state label hOther
    rw [hWell.transition?_applyAll,
      Rule.find?_reverse_eq_none_iff.mpr hOther]
    rfl
  kept state _ :=
    ⟨c.entryOf_applyAll rules state,
      c.exitOf_applyAll rules state⟩
  created := by
    intro state hNew
    have hNone := c.state?_eq_none_iff.mpr hNew
    rw [entryOf_applyAll, exitOf_applyAll, entryOf_eq,
      exitOf_eq, hNone]
    exact ⟨rfl, rfl⟩
  initial := hWell.initial_applyAll rules

------------------------------------------------------------
-- Charts with the Same Lookups
------------------------------------------------------------

/-
  A well-formed chart is determined by its initial state, by
  which states are registered, by their actions and by the
  transitions that leave them.
-/
theorem WellFormed.ext_lookups
    (hLeft : c.WellFormed)
    (hRight : d.WellFormed)
    (hInitial : c.initial = d.initial)
    (hStates :
      ∀ state, c.hasState state = d.hasState state)
    (hTransitions :
      ∀ state label,
        c.transition? state label =
          d.transition? state label)
    (hEntry : ∀ state, c.entryOf state = d.entryOf state)
    (hExit : ∀ state, c.exitOf state = d.exitOf state) :
    c = d := by
  have hLookups :
      ∀ state, c.state? state = d.state? state := by
    intro state
    cases hFound : c.state? state with
    | none =>
        have hNew := c.state?_eq_none_iff.mp hFound
        rw [hStates] at hNew
        exact (d.state?_eq_none_iff.mpr hNew).symm
    | some s =>
        have hState := c.hasState_iff.mpr ⟨s, hFound⟩
        rw [hStates] at hState
        rcases d.hasState_iff.mp hState with ⟨s', hFound'⟩
        have hLabel :=
          (hLeft.labelled hFound).trans
            (hRight.labelled hFound').symm
        have hEntries := hEntry state
        have hExits := hExit state
        rw [entryOf_eq, entryOf_eq, hFound, hFound']
          at hEntries
        rw [exitOf_eq, exitOf_eq, hFound, hFound'] at hExits
        have hLeaving :
            s.transitions = s'.transitions := by
          apply LabelMap.ext_get?
          intro label
          have hEq := hTransitions state label
          unfold transition? at hEq
          rwa [hFound, hFound'] at hEq
        cases s
        cases s'
        simp only [Option.bind_some] at hEntries hExits
        simp only at hLabel hLeaving
        rw [hFound', hLabel, hLeaving, hEntries, hExits]
  have hMaps : c.states = d.states :=
    LabelMap.ext_get? hLookups
  cases c
  cases d
  simp only at hMaps hInitial
  rw [hMaps, hInitial]

namespace ChangedBy

variable {rules : List Rule}

/- The last rule about a transition decides, if any does. -/
theorem transition?_eq
    (hChanged : c.ChangedBy rules d)
    (state label : String) :
    d.transition? state label =
      ((rules.reverse.find?
          (Rule.leaves state label)).map
        Rule.transition).or
        (c.transition? state label) := by
  cases hRule :
      rules.reverse.find? (Rule.leaves state label) with
  | none =>
      exact
        hChanged.others _ _
          (Rule.find?_reverse_eq_none_iff.mp hRule)
  | some r =>
      rcases List.find?_eq_some_iff_append.mp hRule with
        ⟨hLeaves, later, earlier, hReverse, hLater⟩
      rcases Rule.leaves_iff.mp hLeaves with ⟨rfl, rfl⟩
      have hRules :
          rules =
            earlier.reverse ++ r :: later.reverse := by
        rw [← List.reverse_reverse rules, hReverse]
        simp
      apply hChanged.replaced _ _ _ hRules
      intro r' hMember
      have hNot := hLater r' (List.mem_reverse.mp hMember)
      simpa using hNot

/- Rules change a chart in one way only. -/
theorem unique
    {e : Chart G A}
    (hChanged : c.ChangedBy rules d)
    (hChanged' : c.ChangedBy rules e)
    (hWell : d.WellFormed)
    (hWell' : e.WellFormed) :
    d = e := by
  have hActions :
      ∀ state,
        d.entryOf state = e.entryOf state ∧
          d.exitOf state = e.exitOf state := by
    intro state
    cases hState : c.hasState state with
    | true =>
        have hKept := hChanged.kept state hState
        have hKept' := hChanged'.kept state hState
        exact
          ⟨hKept.1.trans hKept'.1.symm,
            hKept.2.trans hKept'.2.symm⟩
    | false =>
        have hNew := hChanged.created state hState
        have hNew' := hChanged'.created state hState
        exact
          ⟨hNew.1.trans hNew'.1.symm,
            hNew.2.trans hNew'.2.symm⟩
  apply hWell.ext_lookups hWell'
  · rw [hChanged.initial, hChanged'.initial]
  · intro state
    rw [Bool.eq_iff_iff, hChanged.states, hChanged'.states]
  · intro state label
    rw [hChanged.transition?_eq, hChanged'.transition?_eq]
  · exact fun state => (hActions state).1
  · exact fun state => (hActions state).2

end ChangedBy

------------------------------------------------------------
-- The Meaning of a Text
------------------------------------------------------------

/-
  Reading a text counts its statements if all of them are
  rules, and otherwise reports the first that is not one
  together with the number of rules before it. In both cases
  the chart is changed by the rules up to there, and this
  determines what it becomes.
-/
theorem read_applies_leading_rules
    (hBuilt : c.Built)
    (text : String) :
    let list := statements text
    let count := list.findIdx Rule.isFault
    let rules := Rule.leading list
    let reading := c.read text
    (list.take count).map Rule.parse? = rules.map some ∧
      (count = list.length →
        reading.outcome = .ok list.length) ∧
      (∀ hFault : count < list.length,
        Rule.parse? list[count] = none ∧
          reading.outcome = .error ⟨count, list[count]⟩) ∧
      c.ChangedBy rules reading.chart ∧
      ∀ d : Chart G A,
        d.WellFormed →
          c.ChangedBy rules d → d = reading.chart := by
  intro list count rules reading
  have hWell := hBuilt.wellFormed
  have hReading :
      reading = ⟨c.applyAll rules, outcomeOf list⟩ :=
    c.read_eq text
  have hChanged : c.ChangedBy rules reading.chart := by
    rw [hReading]
    exact hWell.changedBy_applyAll rules
  have hWell' : reading.chart.WellFormed := by
    rw [hReading]
    exact hWell.applyAll rules
  refine ⟨Rule.map_parse?_take list, ?_, ?_, hChanged, ?_⟩
  · intro hCount
    rw [hReading]
    exact outcomeOf_of_eq hCount
  · intro hFault
    rw [hReading]
    exact
      ⟨Rule.parse?_getElem_findIdx hFault,
        outcomeOf_of_lt hFault⟩
  · intro d hWellFormed hOther
    exact hOther.unique hChanged hWellFormed hWell'

/- Two states that lead to each other through gates. -/
def gated : Chart String Unit :=
  (((Chart.empty.connect "a" "b" "up").connect "b" "a"
    "down").edit (.gate "a" "up" (some "dry"))).edit
      (.gate "b" "down" (some "dry"))

/- A rule replaces one gated transition before the fault. -/
theorem read_applies_leading_rules_gated :
    let reading :=
      gated.read "a -> c (up); up; b -> c (down)"
    gated.Built ∧
      reading.outcome = .error ⟨1, "up"⟩ ∧
      gated.ChangedBy [⟨"a", "c", "up"⟩] reading.chart ∧
      reading.chart.gateOf "a" "up" = none ∧
      reading.chart.gateOf "b" "down" = some "dry" ∧
      ∀ d : Chart String Unit,
        d.WellFormed →
          gated.ChangedBy [⟨"a", "c", "up"⟩] d →
            d = reading.chart := by
  have hBuilt : gated.Built :=
    (((Built.empty.connect "a" "b" "up").connect "b" "a"
      "down").edit _).edit _
  rcases read_applies_leading_rules hBuilt
      "a -> c (up); up; b -> c (down)" with
    ⟨_, _, hFaulty, hChanged, hUnique⟩
  exact
    ⟨hBuilt, (hFaulty (by decide)).2, hChanged, rfl, rfl,
      hUnique⟩

end Chart

end Statechart
