import Mathlib.Data.List.Forall2
import Statechart.Proofs.Machine.Observers
import Statechart.Proofs.Machine.Query

/-
  This file states what loggers hear. Every attempt at a
  transition sends one line to the logger that is set at the
  time: about a missing transition, about a closed gate, or
  about the move that is made. There is one exception: an
  attempt that its exit action stops is over before the line
  about the move is sent, and nothing is heard of it.
  Questions send no line.

  Key definitions include:
    * `Happening.lines`
    * `Machine.Attempted`
    * `Machine.attempts`
    * `Machine.Describes`
    * `Machine.Heard`

  Key theorems include:
    * `Machine.depart_lines`
    * `Machine.perform_described`
    * `Machine.tour_heard`
    * `Fleet.logger_hears_attempts`
    * `Fleet.logger_misses_stopped_exit`
-/

namespace Statechart

variable {G A W : Type}

------------------------------------------------------------
-- Lines
------------------------------------------------------------

namespace Happening

/- A line with the logger that it is sent to. -/
def loggedLine? : Happening G A → Option (String × String)
  | logged logger line => some (logger, line)
  | _ => none

/- The lines that are sent to loggers, in order. -/
def lines
    (trace : List (Happening G A)) :
    List (String × String) :=
  trace.filterMap loggedLine?

@[simp]
theorem lines_append
    (first rest : List (Happening G A)) :
    lines (first ++ rest) = lines first ++ lines rest :=
  List.filterMap_append ..

/- What a host says is no line for a logger. -/
@[simp]
theorem lines_map_noted
    (notes : List String) :
    lines (notes.map noted : List (Happening G A)) = [] := by
  simp [lines, List.filterMap_eq_nil_iff, loggedLine?]

/- A line is sent to the logger that is set, if one is. -/
@[simp]
theorem lines_log
    (m : Machine)
    (line : String) :
    lines (m.log line : List (Happening G A)) =
      m.logger.toList.map fun logger => (logger, line) := by
  cases hLogger : m.logger <;>
    simp [lines, Machine.log, hLogger, loggedLine?]

end Happening

------------------------------------------------------------
-- Silent Calls
------------------------------------------------------------

/- A host that is called sends no lines. -/
theorem Host.act_silent
    (host : Host G A W)
    (scene : Scene G A W)
    (kind : HookKind)
    (slot : Option A)
    (state : String) :
    Happening.lines (host.act scene kind slot state).trace =
      [] := by
  unfold act
  split
  · exact Happening.lines_map_noted _
  · rfl

theorem Consulted.silent_trace
    {host : Host G A W}
    {scene scene' : Scene G A W}
    {state label : String}
    {trace : List (Happening G A)}
    (hConsulted :
      Consulted host scene state label scene' trace) :
    Happening.lines trace = [] := by
  cases hConsulted with
  | silent => rfl
  | checked hGate hState hReply =>
      exact Happening.lines_map_noted _

namespace Machine

/- Nothing is heard of a question. -/
theorem can_silent
    (host : Host G A W)
    (m : Machine)
    (scene : Scene G A W)
    (label : String) :
    Happening.lines (m.can host scene label).trace = [] :=
  (m.can_consulted host scene label).silent_trace

/- An action sends no lines of its own. -/
theorem lines_runThen
    (host : Host G A W)
    (m : Machine)
    (scene : Scene G A W)
    (kind : HookKind)
    (slot : Option A)
    (state : String)
    (next : Scene G A W → Attempt G A W) :
    (∃ cause,
        (runThen host m scene kind slot state next).result =
          .error (.failedAction kind state cause) ∧
        Happening.lines
          (runThen host m scene kind slot state
            next).trace = []) ∨
      ∃ scene',
        (runThen host m scene kind slot state next).result =
          (next scene').result ∧
        Happening.lines
            (runThen host m scene kind slot state
              next).trace =
          Happening.lines (next scene').trace := by
  have hSilent := host.act_silent scene kind slot state
  unfold runThen
  cases hValue :
      (host.act scene kind slot state).value with
  | error cause =>
      left
      refine ⟨cause, ?_, ?_⟩
      · simp only [hValue]
      · simp only [hValue, hSilent]
  | ok u =>
      right
      refine ⟨(host.act scene kind slot state).scene, ?_, ?_⟩
      · simp only [hValue, Attempt.after]
      · simp only [hValue, Attempt.after,
          Happening.lines_append, hSilent, List.nil_append]

------------------------------------------------------------
-- Attempts by Result
------------------------------------------------------------

/-
  Results of attempts in which the machine has moved: success
  and failures of the actions that are due after the move.
-/
def HasCrossed (result : Except Fault Unit) : Prop :=
  result = .ok () ∨
    ∃ kind state cause,
      kind ≠ .exit ∧
        result = .error (.failedAction kind state cause)

/- No line is sent after the move. -/
theorem conclude_lines
    (host : Host G A W)
    (m : Machine)
    (origin label : String)
    (scene : Scene G A W) :
    HasCrossed (conclude host m origin label scene).result ∧
      Happening.lines
        (conclude host m origin label scene).trace = [] := by
  rcases lines_runThen host m scene .transition
      (scene.chart.actionOf origin label) m.current
      (fun done => ⟨.ok (), m, done, []⟩) with
    ⟨cause, hResult, hLines⟩ | ⟨scene', hResult, hLines⟩
  · refine ⟨Or.inr ⟨_, _, cause, ?_, hResult⟩, hLines⟩
    decide
  · exact ⟨Or.inl hResult, hLines⟩

theorem arrive_lines
    (host : Host G A W)
    (m : Machine)
    (origin label : String)
    (scene : Scene G A W) :
    HasCrossed (arrive host m origin label scene).result ∧
      Happening.lines
        (arrive host m origin label scene).trace = [] := by
  rcases lines_runThen host m scene .entry
      (scene.chart.entryOf m.current) m.current
      (conclude host m origin label) with
    ⟨cause, hResult, hLines⟩ | ⟨scene', hResult, hLines⟩
  · refine ⟨Or.inr ⟨_, _, cause, ?_, hResult⟩, hLines⟩
    decide
  · have hRest := conclude_lines host m origin label scene'
    rw [← hResult, ← hLines] at hRest
    exact hRest

/- The line about a move is sent right before the move. -/
theorem travel_lines
    (host : Host G A W)
    (m : Machine)
    (label target : String)
    (scene : Scene G A W) :
    HasCrossed (travel host m label target scene).result ∧
      Happening.lines
          (travel host m label target scene).trace =
        m.logger.toList.map fun logger =>
          (logger, moveLine m.current label target) := by
  have hRest :=
    arrive_lines host
      (m.moveTo label target (host.clock scene.world))
      m.current label scene
  refine ⟨hRest.1, ?_⟩
  have hMove :
      Happening.lines
        [(.moved m.current label target :
          Happening G A)] = [] :=
    rfl
  simp only [travel, Attempt.after, Happening.lines_append,
    Happening.lines_log, hMove, hRest.2, List.append_nil]

/-
  An attempt that has passed the gate sends the line about
  its move, unless the exit action fails first.
-/
theorem depart_lines
    (host : Host G A W)
    (m : Machine)
    (label target : String)
    (scene : Scene G A W) :
    (∃ cause,
        (depart host m label target scene).result =
          .error (.failedAction .exit m.current cause) ∧
        Happening.lines
          (depart host m label target scene).trace = []) ∨
      HasCrossed (depart host m label target scene).result ∧
        Happening.lines
            (depart host m label target scene).trace =
          m.logger.toList.map fun logger =>
            (logger, moveLine m.current label target) := by
  rcases lines_runThen host m scene .exit
      (scene.chart.exitOf m.current) m.current
      (travel host m label target) with
    hStopped | ⟨scene', hResult, hLines⟩
  · exact Or.inl hStopped
  · have hRest := travel_lines host m label target scene'
    rw [← hResult, ← hLines] at hRest
    exact Or.inr hRest

------------------------------------------------------------
-- Different Lines
------------------------------------------------------------

/- Texts differ if their parts differ at the start. -/
theorem append_ne_append
    {first first' : String}
    {n : Nat}
    (hLength : n ≤ first.toList.length)
    (hLength' : n ≤ first'.toList.length)
    (hStart :
      first.toList.take n ≠ first'.toList.take n)
    (rest rest' : String) :
    first ++ rest ≠ first' ++ rest' := by
  intro hEq
  apply hStart
  have hTake := congrArg (·.toList.take n) hEq
  simp only [String.toList_append] at hTake
  rwa [List.take_append_of_le_length hLength,
    List.take_append_of_le_length hLength'] at hTake

/- A line tells what kind of outcome it is about. -/
theorem missingLine_ne_closedLine
    (label : String) :
    missingLine label ≠ closedLine := by
  have hOther : closedLine = closedLine ++ "" :=
    (String.append_empty ..).symm
  unfold missingLine
  rw [hOther]
  exact
    append_ne_append (n := 1) (by decide +kernel)
      (by decide +kernel) (by decide +kernel) _ _

theorem moveLine_ne_missingLine
    (origin label target label' : String) :
    moveLine origin label target ≠ missingLine label' := by
  unfold moveLine missingLine
  simp only [String.append_assoc]
  exact
    append_ne_append (n := 1) (by decide +kernel)
      (by decide +kernel) (by decide +kernel) _ _

/- Both lines begin alike, with different eleventh signs. -/
theorem moveLine_ne_closedLine
    (origin label target : String) :
    moveLine origin label target ≠ closedLine := by
  have hOther : closedLine = closedLine ++ "" :=
    (String.append_empty ..).symm
  rw [hOther]
  unfold moveLine
  simp only [String.append_assoc]
  exact
    append_ne_append (n := 11) (by decide +kernel)
      (by decide +kernel) (by decide +kernel) _ _

------------------------------------------------------------
-- Described Attempts
------------------------------------------------------------

/-
  An attempt as it looks from outside: the logger that was
  set, the state in which it was made, the label and the
  result.
-/
structure Attempted where
  logger : Option String
  origin : String
  label : String
  result : Except Fault Unit

/-
  The line that describes an attempt. None does if the exit
  action stopped it.
-/
inductive Describes
    (c : Chart G A)
    (a : Attempted) :
    Option String → Prop where
  | missing
      (hResult :
        a.result = .error (.noTransition a.origin a.label)) :
      Describes c a (some (missingLine a.label))
  | closed
      (hResult :
        a.result = .error (.closedGate a.origin a.label)) :
      Describes c a (some closedLine)
  | crossed
      {target : String}
      (hTarget :
        (c.transition? a.origin a.label).map
          Transition.destination = some target)
      (hResult : HasCrossed a.result) :
      Describes c a
        (some (moveLine a.origin a.label target))
  | stopped
      {cause : String}
      (hResult :
        a.result =
          .error (.failedAction .exit a.origin cause)) :
      Describes c a none

namespace Describes

variable {c d : Chart G A}
variable {a : Attempted}
variable {line : Option String}

theorem of_sameTopology
    (hSame : d.SameTopology c)
    (hDescribes : Describes d a line) :
    Describes c a line := by
  cases hDescribes with
  | missing hResult => exact missing hResult
  | closed hResult => exact closed hResult
  | crossed hTarget hResult =>
      have hFields :=
        congrArg (Option.map Transition.destination)
          (hSame.transition?_eq a.origin a.label)
      simp only [Option.map_map, Function.comp_def,
        Transition.unhooked_destination] at hFields
      exact crossed (hFields.symm.trans hTarget) hResult
  | stopped hResult => exact stopped hResult

/- Nothing is said of an attempt if its exit action failed. -/
theorem eq_none_iff
    (hDescribes : Describes c a line) :
    line = none ↔
      ∃ state cause,
        a.result =
          .error (.failedAction .exit state cause) := by
  cases hDescribes with
  | missing hResult => simp [hResult]
  | closed hResult => simp [hResult]
  | crossed hTarget hResult =>
      rcases hResult with
        hDone | ⟨kind, state, cause, hKind, hFailed⟩
      · simp [hDone]
      · simp [hFailed, hKind]
  | stopped hResult => simp [hResult]

theorem eq_missingLine_iff
    (hDescribes : Describes c a line) :
    line = some (missingLine a.label) ↔
      ∃ state label,
        a.result = .error (.noTransition state label) := by
  have hClosed := (missingLine_ne_closedLine a.label).symm
  cases hDescribes with
  | missing hResult => simp [hResult]
  | closed hResult => simp [hResult, hClosed]
  | @crossed target hTarget hResult =>
      have hMove :=
        moveLine_ne_missingLine a.origin a.label target
          a.label
      rcases hResult with
        hDone | ⟨kind, state, cause, hKind, hFailed⟩
      · simp [hDone, hMove]
      · simp [hFailed, hMove]
  | stopped hResult => simp [hResult]

theorem eq_closedLine_iff
    (hDescribes : Describes c a line) :
    line = some closedLine ↔
      ∃ state label,
        a.result = .error (.closedGate state label) := by
  have hMissing := missingLine_ne_closedLine a.label
  cases hDescribes with
  | missing hResult => simp [hResult, hMissing]
  | closed hResult => simp [hResult]
  | @crossed target hTarget hResult =>
      have hMove :=
        moveLine_ne_closedLine a.origin a.label target
      rcases hResult with
        hDone | ⟨kind, state, cause, hKind, hFailed⟩
      · simp [hDone, hMove]
      · simp [hFailed, hMove]
  | stopped hResult => simp [hResult]

end Describes

/- An attempt sends what describes it, and nothing else. -/
theorem perform_described
    (host : Host G A W)
    (m : Machine)
    {scene : Scene G A W}
    (hWalks : m.Walks scene.chart)
    (label : String) :
    let attempt := m.perform host scene label
    ∃ line,
      Describes scene.chart
          ⟨m.logger, m.current, label, attempt.result⟩
          line ∧
        Happening.lines attempt.trace =
          line.toList.flatMap fun text =>
            m.logger.toList.map fun logger =>
              (logger, text) := by
  intro attempt
  have hAsked := m.can_silent host scene label
  rcases m.perform_of_can host hWalks label with
    ⟨_, hPerform⟩ | ⟨_, hPerform⟩ |
      ⟨t, _, hFound, hPerform⟩
  · refine ⟨_, .missing ?_, ?_⟩
    · simp only [attempt, hPerform, Attempt.after, refuse]
    · simp [attempt, hPerform, Attempt.after, refuse, hAsked]
  · refine ⟨_, .closed ?_, ?_⟩
    · simp only [attempt, hPerform, Attempt.after, refuse]
    · simp [attempt, hPerform, Attempt.after, refuse, hAsked]
  · have hTarget :
        (scene.chart.transition? m.current label).map
            Transition.destination =
          some t.destination := by
      rw [hFound]
      rfl
    rcases m.depart_lines host label t.destination
        (m.can host scene label).scene with
      ⟨cause, hResult, hLines⟩ | ⟨hResult, hLines⟩
    · have hStopped :
          attempt.result =
            .error (.failedAction .exit m.current cause) := by
        simp only [attempt, hPerform, Attempt.after, hResult]
      refine ⟨none, .stopped hStopped, ?_⟩
      · simp [attempt, hPerform, Attempt.after, hAsked,
          hLines]
    · refine ⟨_, .crossed hTarget ?_, ?_⟩
      · simpa only [attempt, hPerform, Attempt.after]
          using hResult
      · simp [attempt, hPerform, Attempt.after, hAsked,
          hLines]

------------------------------------------------------------
-- Tours
------------------------------------------------------------

/- The attempt that an order asks for, if it asks for one. -/
def attempted
    (host : Host G A W)
    (m : Machine)
    (scene : Scene G A W) :
    Fleet.Order → List Attempted
  | .perform label =>
      [⟨m.logger, m.current, label,
        (m.perform host scene label).result⟩]
  | .can _ => []
  | .setLogger _ => []

/- The attempts made while orders are obeyed in turn. -/
def attempts
    (host : Host G A W)
    (m : Machine)
    (scene : Scene G A W) :
    List Fleet.Order → List Attempted
  | [] => []
  | order :: rest =>
      let first := m.obey host scene order
      m.attempted host scene order ++
        attempts host first.machine first.scene rest

/- Is this the account of an attempt? -/
def Account.isAttempt (account : Account G A) : Bool :=
  match account.answer with
  | .performed _ => true
  | .told _ => false

/-
  An attempt is heard if it has the result that its caller
  was given, if the logger that was set then received the
  line that describes it, and if this line tells whether the
  transition was missing and whether its gate was closed.
-/
structure Heard
    (c : Chart G A)
    (a : Attempted)
    (account : Account G A) : Prop where
  answer : account.answer = .performed a.result
  described :
    ∃ line,
      Describes c a line ∧
        Happening.lines account.trace =
          line.toList.flatMap fun text =>
            a.logger.toList.map fun logger => (logger, text)
  missing :
    ∀ logger,
      a.logger = some logger →
        (Happening.lines account.trace =
            [(logger, missingLine a.label)] ↔
          ∃ state label,
            a.result = .error (.noTransition state label))
  closed :
    ∀ logger,
      a.logger = some logger →
        (Happening.lines account.trace =
            [(logger, closedLine)] ↔
          ∃ state label,
            a.result = .error (.closedGate state label))
  silent :
    ∀ logger,
      a.logger = some logger →
        (Happening.lines account.trace = [] ↔
          ∃ state cause,
            a.result =
              .error (.failedAction .exit state cause))

theorem Describes.heard
    {c : Chart G A}
    {a : Attempted}
    {line : Option String}
    (hDescribes : Describes c a line)
    {account : Account G A}
    (hAnswer : account.answer = .performed a.result)
    (hLines :
      Happening.lines account.trace =
        line.toList.flatMap fun text =>
          a.logger.toList.map fun logger =>
            (logger, text)) :
    Heard c a account where
  answer := hAnswer
  described := ⟨line, hDescribes, hLines⟩
  missing := by
    intro logger hLogger
    rw [← hDescribes.eq_missingLine_iff, hLines, hLogger]
    cases line <;> simp
  closed := by
    intro logger hLogger
    rw [← hDescribes.eq_closedLine_iff, hLines, hLogger]
    cases line <;> simp
  silent := by
    intro logger hLogger
    rw [← hDescribes.eq_none_iff, hLines, hLogger]
    cases line <;> simp

theorem Heard.of_sameTopology
    {c d : Chart G A}
    (hSame : d.SameTopology c)
    {a : Attempted}
    {account : Account G A}
    (hHeard : Heard d a account) :
    Heard c a account := by
  rcases hHeard.described with ⟨line, hDescribes, hLines⟩
  exact
    (hDescribes.of_sameTopology hSame).heard hHeard.answer
      hLines

/- An order leaves a machine that walks the same chart. -/
theorem obey_walks
    (host : Host G A W)
    (m : Machine)
    {scene : Scene G A W}
    (hWalks : m.Walks scene.chart)
    (order : Fleet.Order) :
    let tour := m.obey host scene order
    tour.scene.chart.SameTopology scene.chart ∧
      tour.machine.Walks tour.scene.chart := by
  cases order with
  | perform label =>
      rcases m.perform_conducted host hWalks label with
        ⟨block, hConduct, _⟩
      exact ⟨hConduct.sameTopology, hConduct.walks hWalks⟩
  | can label =>
      have hSame := m.can_sameTopology host hWalks label
      exact ⟨hSame, hWalks.of_sameTopology hSame⟩
  | setLogger logger =>
      exact ⟨rfl, ⟨hWalks.registered, hWalks.closed⟩⟩

/- What is heard while a single order is obeyed. -/
theorem obey_heard
    (host : Host G A W)
    (m : Machine)
    {scene : Scene G A W}
    (hWalks : m.Walks scene.chart)
    (order : Fleet.Order) :
    let accounts := (m.obey host scene order).accounts
    List.Forall₂ (Heard scene.chart)
        (m.attempted host scene order)
        (accounts.filter Account.isAttempt) ∧
      ∀ account ∈ accounts,
        account.isAttempt = false →
          Happening.lines account.trace = [] := by
  cases order with
  | perform label =>
      rcases m.perform_described host hWalks label with
        ⟨line, hDescribes, hLines⟩
      constructor
      · exact .cons (hDescribes.heard rfl hLines) .nil
      · intro account hMember hOther
        rw [List.mem_singleton.mp hMember] at hOther
        cases hOther
  | can label =>
      constructor
      · exact .nil
      · intro account hMember _
        rw [List.mem_singleton.mp hMember]
        exact m.can_silent host scene label
  | setLogger logger =>
      exact ⟨.nil, by simp [obey]⟩

/-
  What is heard during a tour. By induction on the orders:
  the chart keeps its topology, so the destinations that the
  lines name are those of the chart at the start.
-/
theorem tour_heard
    (host : Host G A W)
    (m : Machine)
    {scene : Scene G A W}
    (hWalks : m.Walks scene.chart)
    (orders : List Fleet.Order) :
    let accounts := (m.tour host scene orders).accounts
    List.Forall₂ (Heard scene.chart)
        (m.attempts host scene orders)
        (accounts.filter Account.isAttempt) ∧
      ∀ account ∈ accounts,
        account.isAttempt = false →
          Happening.lines account.trace = [] := by
  induction orders generalizing m scene with
  | nil => exact ⟨.nil, by simp [tour]⟩
  | cons order rest ih =>
      have hFirst := m.obey_heard host hWalks order
      rcases m.obey_walks host hWalks order with
        ⟨hSame, hWalks'⟩
      have hRest := ih _ hWalks'
      simp only [attempts, tour, List.filter_append,
        List.mem_append]
      constructor
      · refine List.rel_append hFirst.1 (hRest.1.imp ?_)
        intro a account hHeard
        exact hHeard.of_sameTopology hSame
      · rintro account (hMember | hMember) hOther
        · exact hFirst.2 account hMember hOther
        · exact hRest.2 account hMember hOther

end Machine

------------------------------------------------------------
-- Bound Machines
------------------------------------------------------------

namespace Fleet

/-
  Whatever happened to the fleet before, whatever hooks do,
  and whichever loggers are set in between: each attempt of
  a machine is heard as it was made, in order, and nothing
  is heard of its questions.
-/
theorem logger_hears_attempts
    {c : Chart G A}
    (hBuilt : c.Built)
    (host : Host G A W)
    (world : W)
    (commands : List (Command G A W))
    {m : Machine}
    (hMachine :
      m ∈ ((launch c world).run host commands).machines)
    (orders : List Order) :
    let scene := ((launch c world).run host commands).scene
    let accounts := (m.tour host scene orders).accounts
    List.Forall₂ (Machine.Heard scene.chart)
        (m.attempts host scene orders)
        (accounts.filter Machine.Account.isAttempt) ∧
      ∀ account ∈ accounts,
        account.isAttempt = false →
          Happening.lines account.trace = [] := by
  intro scene accounts
  have hSound :=
    run_sound hBuilt.wellFormed host world commands
  exact m.tour_heard host (hSound.walks hMachine) orders

end Fleet

------------------------------------------------------------
-- A Jammed Door
------------------------------------------------------------

/- A door that cannot be left shut: its exit action fails. -/
def jammed : ScriptedChart :=
  (Chart.empty.connect "shut" "open" "push").edit
    (.exit "shut" (some [.fail "stuck"]))

theorem jammed_built : jammed.Built :=
  (Chart.Built.empty.connect "shut" "open" "push").edit _

/- A machine is bound to the door and gets a logger. -/
def jammedCommands :
    List (Fleet.Command Condition Script Variables) :=
  [ .bind .standard, .tell 0 (.setLogger (some "panel")) ]

/-
  The panel hears that the door cannot be pulled, and
  nothing of the question and of the attempt to push it.
-/
theorem Fleet.logger_hears_attempts_jammed :
    let fleet :=
      (launch jammed LabelMap.empty).run scriptHost
        jammedCommands
    let m : Machine :=
      (Machine.start .standard "shut").setLogger "panel"
    let orders : List Order :=
      [ .perform "pull", .can "push", .perform "push" ]
    let accounts :=
      (m.tour scriptHost fleet.scene orders).accounts
    jammed.Built ∧ m ∈ fleet.machines ∧
      accounts.map (fun a => Happening.lines a.trace) =
        [ [("panel", "Cannot find transition called pull")],
          [], [] ] ∧
      List.Forall₂ (Machine.Heard fleet.scene.chart)
          (m.attempts scriptHost fleet.scene orders)
          (accounts.filter Machine.Account.isAttempt) ∧
        ∀ account ∈ accounts,
          account.isAttempt = false →
            Happening.lines account.trace = [] := by
  intro fleet m orders accounts
  have hMachine : m ∈ fleet.machines := by
    have hFirst : fleet.machines[0]? = some m := rfl
    exact List.mem_of_getElem? hFirst
  exact
    ⟨jammed_built, hMachine, by decide +kernel,
      logger_hears_attempts jammed_built scriptHost
        LabelMap.empty jammedCommands hMachine orders⟩

/- Not every attempt is heard: this one sends no line. -/
theorem Fleet.logger_misses_stopped_exit :
    let fleet :=
      (launch jammed LabelMap.empty).run scriptHost
        jammedCommands
    let m : Machine :=
      (Machine.start .standard "shut").setLogger "panel"
    let attempt := m.perform scriptHost fleet.scene "push"
    fleet.machines[0]? = some m ∧
      attempt.result =
        .error (.failedAction .exit "shut" "stuck") ∧
      ¬ ∃ line,
        Happening.lines attempt.trace =
          [("panel", line)] := by
  intro fleet m attempt
  have hSilent : Happening.lines attempt.trace = [] := rfl
  refine ⟨rfl, rfl, ?_⟩
  rintro ⟨line, hLine⟩
  rw [hSilent] at hLine
  cases hLine

end Statechart
