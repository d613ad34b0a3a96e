import Statechart.Proofs.Machine.Discipline

/-
  This file states that asking whether a transition could be
  performed foretells the attempt to perform it, and what an
  attempt that ends with a fault leaves behind. After a
  recoverable fault nothing has happened but what the
  question alone brings about; after any other fault an
  action has failed, and the machine has moved exactly if
  that action was due after the move.

  Key definitions include:
    * `Consulted`
    * `Machine.Foretells`
    * `Machine.Untouched`
    * `Machine.Stopped`

  Key theorems include:
    * `Machine.perform_of_can`
    * `Machine.can_foretells`
    * `Machine.perform_untouched`
    * `Machine.perform_stopped`
    * `Fleet.query_foretells_attempt`
-/

namespace Statechart

------------------------------------------------------------
-- Consulting a Gate
------------------------------------------------------------

/-
  A gate is consulted at most once, with the state that the
  transition leaves. Nothing else happens, except that the
  host may say something while it checks the gate.
-/
inductive Consulted
    {G A W : Type}
    (host : Host G A W)
    (scene : Scene G A W)
    (state label : String) :
    Scene G A W → List (Happening G A) → Prop where
  | silent :
      Consulted host scene state label scene []
  | checked
      {gate : G}
      {s : State G A}
      {reply : Reply G A W Bool}
      (hGate : scene.chart.gateOf state label = some gate)
      (hState : scene.chart.state? state = some s)
      (hReply :
        host.check gate scene.chart s scene.world = reply) :
      Consulted host scene state label (scene.hear reply)
        (.checked gate s reply.value ::
          reply.notes.map .noted)

section Consulting

variable {G A W : Type}

/- What a host says is no action. -/
@[simp]
theorem Happening.filter_isAction_map_noted
    (notes : List String) :
    (notes.map noted : List (Happening G A)).filter
      isAction = [] := by
  simp [List.filter_eq_nil_iff, isAction]

@[simp]
theorem Happening.filter_isAction_log
    (m : Machine)
    (line : String) :
    (m.log line : List (Happening G A)).filter isAction =
      [] := by
  simp [Machine.log, List.filter_eq_nil_iff, isAction]

theorem Consulted.filter_isAction
    {host : Host G A W}
    {scene scene' : Scene G A W}
    {state label : String}
    {trace : List (Happening G A)}
    (hConsulted :
      Consulted host scene state label scene' trace) :
    trace.filter Happening.isAction = [] := by
  cases hConsulted with
  | silent => rfl
  | checked hGate hState hReply =>
      simp [Happening.isAction]

theorem Host.ask_consulted
    (host : Host G A W)
    (scene : Scene G A W)
    (state label : String) :
    Consulted host scene state label
      (host.ask scene state label).scene
      (host.ask scene state label).trace := by
  unfold ask
  split
  · rename_i hState hGate
    exact Consulted.checked hGate hState rfl
  · exact Consulted.silent

/- A question consults the gate of the transition only. -/
theorem Machine.can_consulted
    (host : Host G A W)
    (m : Machine)
    (scene : Scene G A W)
    (label : String) :
    Consulted host scene m.current label
      (m.can host scene label).scene
      (m.can host scene label).trace := by
  unfold can
  split
  · exact Consulted.silent
  · exact host.ask_consulted scene m.current label

end Consulting

------------------------------------------------------------
-- Attempts after Questions
------------------------------------------------------------

namespace Machine

variable {G A W : Type}

/-
  An attempt ends in an action if it is done or if the last
  action that it ran has failed.
-/
def EndsInAction (attempt : Attempt G A W) : Prop :=
  attempt.result = .ok () ∨
    ∃ kind state cause,
      attempt.result =
        .error (.failedAction kind state cause)

theorem runThen_endsInAction
    (host : Host G A W)
    (m : Machine)
    (scene : Scene G A W)
    (kind : HookKind)
    (action : Option A)
    (state : String)
    {next : Scene G A W → Attempt G A W}
    (hNext : ∀ scene', EndsInAction (next scene')) :
    EndsInAction
      (runThen host m scene kind action state next) := by
  unfold runThen
  cases hValue : (host.act scene kind action state).value with
  | error cause =>
      simp only [hValue]
      exact Or.inr ⟨kind, state, cause, rfl⟩
  | ok u =>
      simp only [hValue]
      exact hNext _

/- Only an action can fail once the gate is open. -/
theorem depart_endsInAction
    (host : Host G A W)
    (m : Machine)
    (label target : String)
    (scene : Scene G A W) :
    EndsInAction (m.depart host label target scene) := by
  apply runThen_endsInAction
  intro scene₂
  apply runThen_endsInAction
  intro scene₃
  apply runThen_endsInAction
  intro scene₄
  exact Or.inl rfl

/-
  An attempt starts like the question whether it could be
  made. It then refuses the transition or departs, as the
  answer to the question tells.
-/
theorem perform_of_can
    (host : Host G A W)
    (m : Machine)
    {scene : Scene G A W}
    (hWalks : m.Walks scene.chart)
    (label : String) :
    let asked := m.can host scene label
    (asked.value = .error (.noTransition m.current label) ∧
        m.perform host scene label =
          (m.refuse asked.scene
            (.noTransition m.current label)
            (missingLine label)).after asked.trace) ∨
      (asked.value = .ok false ∧
        m.perform host scene label =
          (m.refuse asked.scene (.closedGate m.current label)
            closedLine).after asked.trace) ∨
      ∃ t,
        asked.value = .ok true ∧
          scene.chart.transition? m.current label = some t ∧
          m.perform host scene label =
            (m.depart host label t.destination
              asked.scene).after asked.trace := by
  intro asked
  have hAsked := host.ask_asked hWalks.registered label
  cases hFound :
      scene.chart.transition? m.current label with
  | none =>
      left
      simp [asked, can, perform, hFound, Attempt.after]
  | some t =>
      right
      have hState :
          (host.ask scene m.current
            label).scene.chart.hasState t.destination =
              true := by
        rw [hAsked.sameTopology.hasState_eq]
        exact hWalks.closed _ _ _ hFound
      cases hValue :
          (host.ask scene m.current label).value with
      | false =>
          left
          simp [asked, can, perform, hFound, hValue]
      | true =>
          right
          refine ⟨t, ?_⟩
          simp [asked, can, perform, hFound, hValue, hState]

end Machine

------------------------------------------------------------
-- Failed Actions
------------------------------------------------------------

/- The kinds of action that are due before one of a kind. -/
def HookKind.earlier : HookKind → List HookKind
  | exit => []
  | entry => [exit]
  | transition => [exit, entry]

section Failing

variable {G A W : Type}
variable {host : Host G A W}
variable {m m' : Machine}
variable {scene scene' : Scene G A W}

/- An action that fails was run. -/
theorem Called.failed
    {kind : HookKind}
    {slot : Option A}
    {state cause : String}
    {trace : List (Happening G A)}
    (hCalled :
      Called host scene kind slot state (.error cause)
        scene' trace) :
    ∃ action s,
      trace = [.ran kind action s (.error cause)] := by
  generalize hOutcome :
      (Except.error cause : Except String Unit) = outcome
    at hCalled
  cases hCalled with
  | absent hSlot => cases hOutcome
  | called hSlot hState hReply => exact ⟨_, _, rfl⟩

/- Where no action fails, none was run or one succeeded. -/
theorem Called.succeeded
    {kind : HookKind}
    {slot : Option A}
    {state : String}
    {trace : List (Happening G A)}
    (hCalled :
      Called host scene kind slot state (.ok ()) scene'
        trace) :
    ∀ h ∈ trace, ∃ action s,
      h = .ran kind action s (.ok ()) := by
  generalize hOutcome :
      (Except.ok () : Except String Unit) = outcome
    at hCalled
  cases hCalled with
  | absent hSlot => exact nofun
  | called hSlot hState hReply =>
      intro h hMember
      exact ⟨_, _, List.mem_singleton.mp hMember⟩

theorem Crossed.exit_succeeded
    {label : String}
    {t : Transition G A}
    {block : Block G A}
    (hCrossed :
      Crossed host m scene label t m' scene' block) :
    ∀ h ∈ block.exit, ∃ action s,
      h = .ran .exit action s (.ok ()) := by
  cases hCrossed with
  | intro hFound hAsked hExit hMoved =>
      exact hExit.succeeded

/-
  Actions stop at the one of a kind if it is the last that
  was run and failed, and all that were run before it were
  due before it and succeeded.
-/
def StopAt
    (kind : HookKind)
    (cause : String)
    (actions : List (Happening G A)) : Prop :=
  ∃ earlier action s,
    actions =
        earlier ++ [.ran kind action s (.error cause)] ∧
      ∀ h ∈ earlier,
        ∃ kind' ∈ kind.earlier, ∃ action' s',
          h = .ran kind' action' s' (.ok ())

/- The state that an action of a kind is called with. -/
def HookKind.due
    (origin target : String) : HookKind → String
  | exit => origin
  | entry => target
  | transition => target

/-
  An attempt is stopped by the action of a kind that fails.
  Only the exit action leaves the machine as it was when it
  fails; after it the move is made.
-/
structure Machine.Stopped
    (m : Machine)
    (label : String)
    (t : Transition G A)
    (kind : HookKind)
    (cause : String)
    (fault : Fault)
    (m' : Machine)
    (actions : List (Happening G A)) : Prop where
  fault :
    fault =
      .failedAction kind (kind.due m.current t.destination)
        cause
  unmoved : kind = .exit → m' = m
  moved : kind ≠ .exit → Moved m label t.destination m'
  last : StopAt kind cause actions

/-
  An attempt that ends with a fault from which it cannot
  recover was stopped by an action.
-/
theorem Conduct.stopped
    {label : String}
    {result : Except Fault Unit}
    {block : Block G A}
    (hConduct :
      Conduct host m scene label result m' scene' block)
    {fault : Fault}
    (hResult : result = .error fault)
    (hFault : fault.isRecoverable = false) :
    ∃ kind cause t,
      scene.chart.transition? m.current label = some t ∧
        m.Stopped label t kind cause fault m'
          block.actions := by
  cases hConduct with
  | unknown hMissing =>
      cases hResult
      cases hFault
  | closed hFound hAsked =>
      cases hResult
      cases hFault
  | @failedExit t _ _ _ exit cause hFound hAsked hExit =>
      cases hResult
      rcases hExit.failed with ⟨action, s, rfl⟩
      exact
        ⟨.exit, cause, t, hFound,
          { fault := rfl
            unmoved := fun _ => rfl
            moved := fun hOther => absurd rfl hOther
            last := ⟨[], action, s, rfl, by simp⟩ }⟩
  | @failedEntry t _ _ _ block _ cause hCrossed hEntry =>
      cases hResult
      rcases hEntry.failed with ⟨action, s, rfl⟩
      refine
        ⟨.entry, cause, t, hCrossed.found,
          { fault := rfl
            unmoved := by simp
            moved := fun _ => hCrossed.moved
            last := ⟨block.exit, action, s, ?_, ?_⟩ }⟩
      · simp [Block.actions, hCrossed.action_eq]
      · intro h hMember
        rcases hCrossed.exit_succeeded h hMember with
          ⟨action', s', rfl⟩
        exact ⟨.exit, by simp [HookKind.earlier], _, _, rfl⟩
  | @failedAction t _ _ _ _ block entry _ cause hCrossed
      hEntry hAction =>
      cases hResult
      rcases hAction.failed with ⟨action, s, rfl⟩
      refine
        ⟨.transition, cause, t, hCrossed.found,
          { fault := rfl
            unmoved := by simp
            moved := fun _ => hCrossed.moved
            last :=
              ⟨block.exit ++ entry, action, s, rfl, ?_⟩ }⟩
      intro h hMember
      rcases List.mem_append.mp hMember with hExit | hEntry'
      · rcases hCrossed.exit_succeeded h hExit with
          ⟨action', s', rfl⟩
        exact ⟨.exit, by simp [HookKind.earlier], _, _, rfl⟩
      · rcases hEntry.succeeded h hEntry' with
          ⟨action', s', rfl⟩
        exact
          ⟨.entry, by simp [HookKind.earlier], _, _, rfl⟩
  | done hCrossed hEntry hAction => cases hResult

end Failing

------------------------------------------------------------
-- What Questions Tell about Attempts
------------------------------------------------------------

namespace Machine

variable {G A W : Type}

/- The answer to a question tells how an attempt ends. -/
structure Foretells
    (asked : Except Fault Bool)
    (result : Except Fault Unit) : Prop where
  missing :
    ∀ state label,
      asked = .error (.noTransition state label) ↔
        result = .error (.noTransition state label)
  closed :
    asked = .ok false ↔
      ∃ state label,
        result = .error (.closedGate state label)
  opened :
    asked = .ok true ↔
      result = .ok () ∨
        ∃ kind state cause,
          result = .error (.failedAction kind state cause)

theorem can_foretells
    (host : Host G A W)
    (m : Machine)
    {scene : Scene G A W}
    (hWalks : m.Walks scene.chart)
    (label : String) :
    Foretells (m.can host scene label).value
      (m.perform host scene label).result := by
  rcases m.perform_of_can host hWalks label with
    ⟨hAsked, hPerform⟩ | ⟨hAsked, hPerform⟩ |
      ⟨t, hAsked, hFound, hPerform⟩
  · rw [hAsked, hPerform]
    constructor <;> simp [refuse, Attempt.after]
  · rw [hAsked, hPerform]
    constructor <;> simp [refuse, Attempt.after]
  · rw [hAsked, hPerform]
    rcases m.depart_endsInAction host label t.destination
        (m.can host scene label).scene with
      hDone | ⟨kind, state, cause, hFailed⟩
    · constructor <;> simp [Attempt.after, hDone]
    · constructor <;> simp [Attempt.after, hFailed]

/-
  A machine is untouched by an attempt if the attempt has
  brought about what the question alone would have, and at
  most one line for the logger.
-/
structure Untouched
    (m : Machine)
    (asked : Outcome G A W (Except Fault Bool))
    (attempt : Attempt G A W) : Prop where
  machine : attempt.machine = m
  scene : attempt.scene = asked.scene
  trace :
    ∃ line, attempt.trace = asked.trace ++ m.log line
  actions : attempt.trace.filter Happening.isAction = []

theorem refuse_untouched
    (m : Machine)
    {asked : Outcome G A W (Except Fault Bool)}
    (hSilent :
      asked.trace.filter Happening.isAction = [])
    (fault : Fault)
    (line : String) :
    m.Untouched asked
      ((m.refuse asked.scene fault line).after
        asked.trace) where
  machine := rfl
  scene := rfl
  trace := ⟨line, rfl⟩
  actions := by
    simp [refuse, Attempt.after, hSilent]

/- After a recoverable fault the machine is untouched. -/
theorem perform_untouched
    (host : Host G A W)
    (m : Machine)
    {scene : Scene G A W}
    (hWalks : m.Walks scene.chart)
    (label : String)
    {fault : Fault}
    (hResult :
      (m.perform host scene label).result = .error fault)
    (hFault : fault.isRecoverable = true) :
    m.Untouched (m.can host scene label)
      (m.perform host scene label) := by
  have hSilent :=
    (m.can_consulted host scene label).filter_isAction
  rcases m.perform_of_can host hWalks label with
    ⟨hAsked, hPerform⟩ | ⟨hAsked, hPerform⟩ |
      ⟨t, hAsked, hFound, hPerform⟩
  · rw [hPerform]
    exact m.refuse_untouched hSilent _ _
  · rw [hPerform]
    exact m.refuse_untouched hSilent _ _
  · have hOpened :=
      (m.can_foretells host hWalks label).opened.mp hAsked
    rw [hResult] at hOpened
    rcases hOpened with hDone | ⟨kind, state, cause, hFailed⟩
    · cases hDone
    · cases hFailed
      cases hFault

/- After any other fault an action has stopped the attempt. -/
theorem perform_stopped
    (host : Host G A W)
    (m : Machine)
    {scene : Scene G A W}
    (hWalks : m.Walks scene.chart)
    (label : String)
    {fault : Fault}
    (hResult :
      (m.perform host scene label).result = .error fault)
    (hFault : fault.isRecoverable = false) :
    let attempt := m.perform host scene label
    ∃ kind cause t,
      scene.chart.transition? m.current label = some t ∧
        m.Stopped label t kind cause fault attempt.machine
          (attempt.trace.filter Happening.isAction) := by
  intro attempt
  rcases m.perform_conducted host hWalks label with
    ⟨block, hConduct, hDeeds⟩
  have hActions :
      attempt.trace.filter Happening.isAction =
        block.actions := by
    rw [← Happening.filter_isAction_isDeed, ← hDeeds,
      hConduct.tidy.filter_deeds]
  rw [hActions]
  exact hConduct.stopped hResult hFault

end Machine

------------------------------------------------------------
-- Questions and Attempts of Fleets
------------------------------------------------------------

namespace Fleet

variable {G A W : Type}

/- A question changes no machine of the fleet. -/
theorem machines_can
    (host : Host G A W)
    (fleet : Fleet G A W)
    (index : Nat)
    (label : String) :
    (fleet.step host (.tell index (.can label))).machines =
      fleet.machines := by
  simp only [step]
  cases fleet.machines[index]? <;> rfl

/-
  Whatever happened to the fleet before: the answer to a
  question tells how an attempt from the same scene ends,
  and asking runs no action and changes no machine. An
  attempt that ends with a recoverable fault has done no
  more than that, and one that ends with another fault was
  stopped by an action.
-/
theorem query_foretells_attempt
    {c : Chart G A}
    (hBuilt : c.Built)
    (host : Host G A W)
    (world : W)
    (commands : List (Command G A W))
    {index : Nat}
    {m : Machine}
    (hMachine :
      ((launch c world).run host commands).machines[index]? =
        some m)
    (label : String) :
    let fleet := (launch c world).run host commands
    let scene := fleet.scene
    let asked := m.can host scene label
    let attempt := m.perform host scene label
    Machine.Foretells asked.value attempt.result ∧
      (fleet.step host (.tell index (.can label))).machines =
        fleet.machines ∧
      Consulted host scene m.current label asked.scene
        asked.trace ∧
      asked.trace.filter Happening.isAction = [] ∧
      (∀ fault,
        attempt.result = .error fault →
          fault.isRecoverable = true →
            m.Untouched asked attempt) ∧
      ∀ fault,
        attempt.result = .error fault →
          fault.isRecoverable = false →
            ∃ kind cause t,
              scene.chart.transition? m.current label =
                  some t ∧
                m.Stopped label t kind cause fault
                  attempt.machine
                  (attempt.trace.filter
                    Happening.isAction) := by
  intro fleet scene asked attempt
  have hSound : fleet.Sound c :=
    run_sound hBuilt.wellFormed host world commands
  have hWalks : m.Walks scene.chart :=
    hSound.walks (List.mem_of_getElem? hMachine)
  have hConsulted := m.can_consulted host scene label
  refine
    ⟨m.can_foretells host hWalks label,
      fleet.machines_can host index label, hConsulted,
      hConsulted.filter_isAction, ?_, ?_⟩
  · intro fault hResult hFault
    exact m.perform_untouched host hWalks label hResult hFault
  · intro fault hResult hFault
    exact m.perform_stopped host hWalks label hResult hFault

/- The second machine of the restless chart gets dizzy. -/
theorem query_foretells_attempt_restless :
    let fleet :=
      (launch restless LabelMap.empty).run scriptHost
        restlessCommands
    let m := Machine.start .standard "on"
    let asked := m.can scriptHost fleet.scene "spin"
    let attempt := m.perform scriptHost fleet.scene "spin"
    restless.Built ∧
      fleet.machines[1]? = some m ∧
      asked.value = .ok true ∧
      attempt.result =
        .error (.failedAction .entry "on" "dizzy") ∧
      Machine.Foretells asked.value attempt.result ∧
      (fleet.step scriptHost
          (.tell 1 (.can "spin"))).machines =
        fleet.machines ∧
      Consulted scriptHost fleet.scene "on" "spin"
        asked.scene asked.trace ∧
      asked.trace.filter Happening.isAction = [] ∧
      ∃ kind cause t,
        fleet.scene.chart.transition? "on" "spin" = some t ∧
          m.Stopped "spin" t kind cause
            (.failedAction .entry "on" "dizzy")
            attempt.machine
            (attempt.trace.filter Happening.isAction) := by
  intro fleet m asked attempt
  have hMachine : fleet.machines[1]? = some m := rfl
  have hResult :
      attempt.result =
        .error (.failedAction .entry "on" "dizzy") :=
    rfl
  rcases query_foretells_attempt restless_built scriptHost
      LabelMap.empty restlessCommands hMachine "spin" with
    ⟨hForetells, hMachines, hConsulted, hSilent, _, hOther⟩
  exact
    ⟨restless_built, hMachine, rfl, hResult, hForetells,
      hMachines, hConsulted, hSilent,
      hOther _ hResult rfl⟩

end Fleet

end Statechart
