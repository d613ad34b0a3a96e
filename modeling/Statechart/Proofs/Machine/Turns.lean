import Statechart.Proofs.Chart.Hooks
import Statechart.Proofs.Machine.Trail

/-
  This file states that machines of one chart do not get in
  each other's way if the hooks of the chart are steady: if
  what they answer depends on the state only, and if they
  write no slots. The machines may then take turns in any
  order. Each of them has the results, the current state and
  the labels in its journal that it would have on its own.

  It is not enough that actions write no slots. A gate sees
  the same state as an action and can write the same slots,
  and what it writes is there for the other machines.

  Everything that an attempt reads besides the machine is
  the chart, which stays the same, and the answers of hooks,
  which do not depend on the world. Times do depend on it,
  so machines are compared up to the times of their moves.

  Key definitions include:
    * `Host.Predictable`
    * `Host.Steady`
    * `Machine.Alike`
    * `Attempt.Alike`
    * `Fleet.takeTurns`
    * `Fleet.own`
    * `Fleet.results`
    * `Machine.shown`

  Key theorems include:
    * `Machine.perform_alike`
    * `Fleet.machines_turn`
    * `Fleet.results_turn`
    * `Fleet.takeTurns_own`
    * `Fleet.shown_takeTurns`
    * `Fleet.shown_takeTurns_congr`
    * `Fleet.turns_do_not_interfere`
    * `Fleet.turns_interfere_through_gates`
-/

namespace Statechart

variable {G A W : Type}

------------------------------------------------------------
-- Steady Hooks
------------------------------------------------------------

/-
  A host is predictable on a chart if the verdict of each
  gate and the outcome of each action depend on the state
  that is given to it, and not on the world, and if no action
  writes a hook slot.
-/
structure Host.Predictable
    (host : Host G A W)
    (c : Chart G A) : Prop where
  verdict :
    ∀ gate ∈ c.gates, ∀ s world world',
      (host.check gate c s world).value =
        (host.check gate c s world').value
  outcome :
    ∀ action ∈ c.actions, ∀ s world world',
      (host.run action c s world).value =
        (host.run action c s world').value
  actionEdits :
    ∀ action ∈ c.actions, ∀ s world,
      (host.run action c s world).edits = []

/-
  A host is steady on a chart if it is predictable, and if
  no gate writes a hook slot either. Gates may change the
  world and say something, although a gate, being a
  predicate, should not do anything but decide.
-/
structure Host.Steady
    (host : Host G A W)
    (c : Chart G A) : Prop extends host.Predictable c where
  gateEdits :
    ∀ gate ∈ c.gates, ∀ s world,
      (host.check gate c s world).edits = []

theorem Scene.hear_chart
    {R : Type}
    {reply : Reply G A W R}
    (hEdits : reply.edits = [])
    (scene : Scene G A W) :
    (scene.hear reply).chart = scene.chart := by
  simp [hear, Chart.editAll, hEdits]

namespace Host.Steady

variable {host : Host G A W}
variable {c : Chart G A}
variable {scene scene' : Scene G A W}

theorem ask_chart
    (hSteady : host.Steady c)
    (hScene : scene.chart = c)
    (state label : String) :
    (host.ask scene state label).scene.chart = c := by
  subst hScene
  unfold ask
  split
  · rename_i hState hGate
    have hMember := Chart.mem_gates_of_gateOf hGate
    exact
      Scene.hear_chart (hSteady.gateEdits _ hMember _ _) _
  · rfl

theorem ask_value
    (hSteady : host.Steady c)
    (hScene : scene.chart = c)
    (hScene' : scene'.chart = c)
    (state label : String) :
    (host.ask scene state label).value =
      (host.ask scene' state label).value := by
  unfold ask
  rw [hScene, hScene']
  split
  · rename_i hState hGate
    have hMember := Chart.mem_gates_of_gateOf hGate
    simp only [checkWith, hScene, hScene']
    exact hSteady.verdict _ hMember _ _ _
  · rfl

theorem act_chart
    (hSteady : host.Steady c)
    (hScene : scene.chart = c)
    (kind : HookKind)
    {slot : Option A}
    (hSlot :
      ∀ action, slot = some action → action ∈ c.actions)
    (state : String) :
    (host.act scene kind slot state).scene.chart = c := by
  subst hScene
  unfold act
  split
  · have hMember := hSlot _ rfl
    exact
      Scene.hear_chart (hSteady.actionEdits _ hMember _ _) _
  · rfl

theorem act_value
    (hSteady : host.Steady c)
    (hScene : scene.chart = c)
    (hScene' : scene'.chart = c)
    (kind : HookKind)
    {slot : Option A}
    (hSlot :
      ∀ action, slot = some action → action ∈ c.actions)
    (state : String) :
    (host.act scene kind slot state).value =
      (host.act scene' kind slot state).value := by
  unfold act
  rw [hScene, hScene']
  split
  · have hMember := hSlot _ rfl
    simp only [runWith, hScene, hScene']
    exact hSteady.outcome _ hMember _ _ _
  · rfl

end Host.Steady

------------------------------------------------------------
-- Machines That Are Alike
------------------------------------------------------------

/-
  Machines are alike if they are in the same state and have
  the same settings, and if their journals differ in times
  at most.
-/
structure Machine.Alike (m n : Machine) : Prop where
  current : m.current = n.current
  settings : m.settings = n.settings
  limit : m.journal.limit = n.journal.limit
  legs :
    m.journal.moves.map Move.leg =
      n.journal.moves.map Move.leg

theorem Machine.Alike.rfl
    {m : Machine} :
    m.Alike m :=
  ⟨Eq.refl _, Eq.refl _, Eq.refl _, Eq.refl _⟩

/- Machines that are alike stay so when both move. -/
theorem Machine.Alike.moveTo
    {m n : Machine}
    (hAlike : m.Alike n)
    (label target : String)
    (time time' : Timestamp) :
    (m.moveTo label target time).Alike
      (n.moveTo label target time') := by
  refine ⟨Eq.refl _, hAlike.settings, ?_, ?_⟩
  · unfold Machine.moveTo
    rw [hAlike.settings]
    split
    · exact hAlike.limit
    · exact hAlike.limit
  · unfold Machine.moveTo
    rw [hAlike.settings]
    split
    · simp only [Journal.record_moves, Journal.map_newest,
        List.map_append, hAlike.legs, hAlike.limit,
        hAlike.current]
      rfl
    · exact hAlike.legs

/-
  Attempts on a chart are alike if they have the same result
  and leave machines that are alike, and if both leave the
  chart as it is.
-/
structure Attempt.Alike
    (c : Chart G A)
    (a b : Attempt G A W) : Prop where
  result : a.result = b.result
  machine : a.machine.Alike b.machine
  left : a.scene.chart = c
  right : b.scene.chart = c

theorem Attempt.Alike.after
    {c : Chart G A}
    {a b : Attempt G A W}
    (hAlike : a.Alike c b)
    (earlier earlier' : List (Happening G A)) :
    (a.after earlier).Alike c (b.after earlier') :=
  ⟨hAlike.result, hAlike.machine, hAlike.left,
    hAlike.right⟩

namespace Machine

------------------------------------------------------------
-- Attempts That Are Alike
------------------------------------------------------------

section Phases

variable {host : Host G A W}
variable {c : Chart G A}
variable {m n : Machine}
variable {scene scene' : Scene G A W}

theorem runThen_alike
    (hSteady : host.Steady c)
    (hAlike : m.Alike n)
    (hScene : scene.chart = c)
    (hScene' : scene'.chart = c)
    (kind : HookKind)
    {slot : Option A}
    (hSlot :
      ∀ action, slot = some action → action ∈ c.actions)
    (state : String)
    {next next' : Scene G A W → Attempt G A W}
    (hNext :
      ∀ s s', s.chart = c → s'.chart = c →
        (next s).Alike c (next' s')) :
    (runThen host m scene kind slot state next).Alike c
      (runThen host n scene' kind slot state next') := by
  have hValue :=
    hSteady.act_value hScene hScene' kind hSlot state
  have hLeft := hSteady.act_chart hScene kind hSlot state
  have hRight := hSteady.act_chart hScene' kind hSlot state
  unfold runThen
  cases hCase : (host.act scene kind slot state).value with
  | error cause =>
      rw [hCase] at hValue
      simp only [hCase, ← hValue]
      exact ⟨Eq.refl _, hAlike, hLeft, hRight⟩
  | ok u =>
      rw [hCase] at hValue
      simp only [hCase, ← hValue]
      exact (hNext _ _ hLeft hRight).after _ _

theorem conclude_alike
    (hSteady : host.Steady c)
    (hAlike : m.Alike n)
    (hScene : scene.chart = c)
    (hScene' : scene'.chart = c)
    (origin label : String) :
    (conclude host m origin label scene).Alike c
      (conclude host n origin label scene') := by
  unfold conclude
  rw [hScene, hScene', hAlike.current]
  exact
    runThen_alike hSteady hAlike hScene hScene' .transition
      (fun _ => Chart.mem_actions_of_actionOf) _
      fun _ _ hLeft hRight =>
        ⟨Eq.refl _, hAlike, hLeft, hRight⟩

theorem arrive_alike
    (hSteady : host.Steady c)
    (hAlike : m.Alike n)
    (hScene : scene.chart = c)
    (hScene' : scene'.chart = c)
    (origin label : String) :
    (arrive host m origin label scene).Alike c
      (arrive host n origin label scene') := by
  unfold arrive
  rw [hScene, hScene', hAlike.current]
  exact
    runThen_alike hSteady hAlike hScene hScene' .entry
      (fun _ => Chart.mem_actions_of_entryOf) _
      fun _ _ hLeft hRight =>
        conclude_alike hSteady hAlike hLeft hRight _ _

theorem depart_alike
    (hSteady : host.Steady c)
    (hAlike : m.Alike n)
    (hScene : scene.chart = c)
    (hScene' : scene'.chart = c)
    (label target : String) :
    (depart host m label target scene).Alike c
      (depart host n label target scene') := by
  unfold depart
  rw [hScene, hScene', hAlike.current]
  refine
    runThen_alike hSteady hAlike hScene hScene' .exit
      (fun _ => Chart.mem_actions_of_exitOf) _ ?_
  intro s s' hLeft hRight
  unfold travel
  rw [hAlike.current]
  exact
    (arrive_alike hSteady (hAlike.moveTo _ _ _ _) hLeft
      hRight _ _).after _ _

end Phases

/-
  On a chart with steady hooks, machines that are alike make
  attempts that are alike, whatever the worlds are.
-/
theorem perform_alike
    {host : Host G A W}
    {c : Chart G A}
    (hSteady : host.Steady c)
    {m n : Machine}
    (hAlike : m.Alike n)
    {scene scene' : Scene G A W}
    (hScene : scene.chart = c)
    (hScene' : scene'.chart = c)
    (label : String) :
    (m.perform host scene label).Alike c
      (n.perform host scene' label) := by
  have hValue :=
    hSteady.ask_value hScene hScene' n.current label
  have hLeft :=
    hSteady.ask_chart hScene n.current label
  have hRight :=
    hSteady.ask_chart hScene' n.current label
  unfold perform
  rw [hScene, hScene', hAlike.current]
  cases hFound : c.transition? n.current label with
  | none => exact ⟨Eq.refl _, hAlike, hScene, hScene'⟩
  | some t =>
      simp only [hLeft, hRight]
      apply Attempt.Alike.after
      rw [hValue]
      split
      · split
        · exact depart_alike hSteady hAlike hLeft hRight _ _
        · exact ⟨Eq.refl _, hAlike, hLeft, hRight⟩
      · exact ⟨Eq.refl _, hAlike, hLeft, hRight⟩

end Machine

------------------------------------------------------------
-- Turns
------------------------------------------------------------

namespace Fleet

/- The results of the attempts of a machine. -/
def results
    (index : Nat)
    (reports : List Report) : List (Except Fault Unit) :=
  (attempts index reports).map Prod.snd

/- Let machines perform transitions, one turn at a time. -/
def takeTurns
    (host : Host G A W)
    (fleet : Fleet G A W)
    (turns : List (Nat × String)) : Fleet G A W :=
  fleet.run host
    (turns.map fun turn => .tell turn.1 (.perform turn.2))

/- The labels of the turns of one machine. -/
def own
    (index : Nat)
    (turns : List (Nat × String)) : List String :=
  turns.filterMap fun turn =>
    if turn.1 = index then some turn.2 else none

/- A single turn is a step, and the others come after it. -/
theorem takeTurns_singleton
    (host : Host G A W)
    (fleet : Fleet G A W)
    (index : Nat)
    (label : String) :
    fleet.takeTurns host [(index, label)] =
      fleet.step host (.tell index (.perform label)) :=
  rfl

theorem takeTurns_cons
    (host : Host G A W)
    (fleet : Fleet G A W)
    (turn : Nat × String)
    (rest : List (Nat × String)) :
    fleet.takeTurns host (turn :: rest) =
      (fleet.takeTurns host [turn]).takeTurns host rest :=
  rfl

/- A turn changes the machine whose turn it is, if any. -/
theorem machines_turn
    (host : Host G A W)
    (fleet : Fleet G A W)
    (turn : Nat × String)
    (index : Nat) :
    (fleet.takeTurns host [turn]).machines[index]? =
      if turn.1 = index then
        fleet.machines[index]?.map fun m =>
          (m.perform host fleet.scene turn.2).machine
      else
        fleet.machines[index]? := by
  obtain ⟨who, label⟩ := turn
  rw [takeTurns_singleton, step]
  by_cases hWho : who = index
  · subst hWho
    cases hMachine : fleet.machines[who]? with
    | none => simp [report, hMachine]
    | some m =>
        have hBound : who < fleet.machines.length :=
          (List.getElem?_eq_some_iff.mp hMachine).1
        simp [obey, report, hBound]
  · cases hMachine : fleet.machines[who]? with
    | none => simp [report, hWho]
    | some m =>
        simp [obey, report, hWho, List.getElem?_set_ne hWho]

/- Only the result of that machine is reported. -/
theorem results_turn
    (host : Host G A W)
    (fleet : Fleet G A W)
    (turn : Nat × String)
    (index : Nat) :
    results index (fleet.takeTurns host [turn]).reports =
      results index fleet.reports ++
        if turn.1 = index then
          (fleet.machines[index]?.map fun m =>
            (m.perform host fleet.scene turn.2).result).toList
        else
          [] := by
  obtain ⟨who, label⟩ := turn
  rw [takeTurns_singleton, step]
  unfold results
  cases hMachine : fleet.machines[who]? with
  | none =>
      simp only [report, attempts_report, Report.attemptOf?,
        List.map_append]
      by_cases hWho : who = index
      · subst hWho
        simp [hMachine]
      · simp [hWho]
  | some m =>
      simp only [obey, report, attempts_report,
        Report.attemptOf?, List.map_append]
      by_cases hWho : who = index
      · subst hWho
        simp [hMachine]
      · simp [hWho]

/- On a chart with steady hooks, turns keep the chart. -/
theorem chart_turn
    {host : Host G A W}
    {fleet : Fleet G A W}
    (hSteady : host.Steady fleet.scene.chart)
    (turn : Nat × String) :
    (fleet.takeTurns host [turn]).scene.chart =
      fleet.scene.chart := by
  obtain ⟨who, label⟩ := turn
  rw [takeTurns_singleton, step]
  cases fleet.machines[who]? with
  | none => rfl
  | some m =>
      have hAlike :=
        m.perform_alike hSteady .rfl rfl rfl label
      exact hAlike.left

/- A machine that was not bound takes no part. -/
theorem takeTurns_absent
    (host : Host G A W)
    (turns : List (Nat × String))
    {fleet : Fleet G A W}
    {index : Nat}
    (hAbsent : fleet.machines[index]? = none) :
    let after := fleet.takeTurns host turns
    after.machines[index]? = none ∧
      results index after.reports =
        results index fleet.reports := by
  induction turns generalizing fleet with
  | nil => exact ⟨hAbsent, rfl⟩
  | cons turn rest ih =>
      have hStill :
          (fleet.takeTurns host [turn]).machines[index]? =
            none := by
        simp [machines_turn, hAbsent]
      have hSame :
          results index
              (fleet.takeTurns host [turn]).reports =
            results index fleet.reports := by
        simp [results_turn, hAbsent]
      rw [takeTurns_cons]
      rcases ih hStill with ⟨hMachines, hResults⟩
      exact ⟨hMachines, hResults.trans hSame⟩

/-
  With steady hooks, a machine that takes its turns among
  others ends like one that performs its own labels without
  pause. By induction on the turns: a turn of the machine
  keeps the two alike, and any other turn passes the machine
  by and leaves the chart as it is.
-/
theorem takeTurns_own
    {host : Host G A W}
    {c : Chart G A}
    (hSteady : host.Steady c)
    (turns : List (Nat × String))
    {fleet : Fleet G A W}
    (hChart : fleet.scene.chart = c)
    {index : Nat}
    {m n : Machine}
    (hMachine : fleet.machines[index]? = some m)
    (hAlike : m.Alike n)
    {scene : Scene G A W}
    (hScene : scene.chart = c) :
    let alone := n.performAll host scene (own index turns)
    let after := fleet.takeTurns host turns
    (∃ m',
      after.machines[index]? = some m' ∧
        m'.Alike alone.machine) ∧
      results index after.reports =
        results index fleet.reports ++ alone.results := by
  induction turns generalizing fleet m n scene with
  | nil =>
      exact
        ⟨⟨m, hMachine, hAlike⟩, (List.append_nil _).symm⟩
  | cons turn rest ih =>
      have hKept :
          (fleet.takeTurns host [turn]).scene.chart = c := by
        subst hChart
        exact chart_turn hSteady turn
      have hNext := machines_turn host fleet turn index
      have hReported := results_turn host fleet turn index
      rw [takeTurns_cons]
      by_cases hTurn : turn.1 = index
      · have hPerform :=
          Machine.perform_alike hSteady hAlike hChart hScene
            turn.2
        have hOwn :
            own index (turn :: rest) =
              turn.2 :: own index rest := by
          simp [own, hTurn]
        rw [if_pos hTurn, hMachine] at hNext
        rw [if_pos hTurn, hMachine] at hReported
        rcases ih hKept hNext hPerform.machine
            hPerform.right with
          ⟨hFinal, hResults⟩
        rw [hOwn]
        refine ⟨hFinal, ?_⟩
        rw [hResults, hReported, Option.map_some,
          hPerform.result, List.append_assoc]
        rfl
      · have hOwn :
            own index (turn :: rest) = own index rest := by
          simp [own, hTurn]
        rw [if_neg hTurn, hMachine] at hNext
        rw [if_neg hTurn, List.append_nil] at hReported
        rcases ih hKept hNext hAlike hScene with
          ⟨hFinal, hResults⟩
        rw [hOwn]
        exact ⟨hFinal, hResults.trans (by rw [hReported])⟩

end Fleet

/-
  What is compared of a machine: the current state, and the
  labels in the journal.
-/
def Machine.shown (m : Machine) : String × List Leg :=
  (m.current, m.journal.moves.map Move.leg)

theorem Machine.Alike.shown
    {m n : Machine}
    (hAlike : m.Alike n) :
    m.shown = n.shown := by
  unfold Machine.shown
  rw [hAlike.current, hAlike.legs]

namespace Fleet

variable {host : Host G A W}
variable {fleet : Fleet G A W}

/- Turns show of a machine what it shows alone. -/
theorem shown_takeTurns
    (hSteady : host.Steady fleet.scene.chart)
    (turns : List (Nat × String))
    {index : Nat}
    {m : Machine}
    (hMachine : fleet.machines[index]? = some m)
    (world : W) :
    let alone :=
      m.performAll host ⟨fleet.scene.chart, world⟩
        (own index turns)
    let after := fleet.takeTurns host turns
    after.machines[index]?.map Machine.shown =
        some alone.machine.shown ∧
      results index after.reports =
        results index fleet.reports ++ alone.results := by
  intro alone after
  have hScene :
      (Scene.mk fleet.scene.chart world).chart =
        fleet.scene.chart :=
    rfl
  rcases takeTurns_own hSteady turns rfl hMachine .rfl
      hScene with
    ⟨⟨m', hFinal, hAlike⟩, hResults⟩
  refine ⟨?_, hResults⟩
  rw [hFinal, Option.map_some, hAlike.shown]

/-
  Two orders in which a machine has the same turns agree on
  this machine.
-/
theorem shown_takeTurns_congr
    (hSteady : host.Steady fleet.scene.chart)
    {turns turns' : List (Nat × String)}
    {index : Nat}
    (hOwn : own index turns' = own index turns) :
    let after := fleet.takeTurns host turns
    let after' := fleet.takeTurns host turns'
    after'.machines[index]?.map Machine.shown =
        after.machines[index]?.map Machine.shown ∧
      results index after'.reports =
        results index after.reports := by
  intro after after'
  cases hMachine : fleet.machines[index]? with
  | none =>
      rcases takeTurns_absent host turns hMachine with
        ⟨hAbsent, hResults⟩
      rcases takeTurns_absent host turns' hMachine with
        ⟨hAbsent', hResults'⟩
      exact
        ⟨congrArg _ (hAbsent'.trans hAbsent.symm),
          hResults'.trans hResults.symm⟩
  | some m =>
      rcases shown_takeTurns hSteady turns hMachine
          fleet.scene.world with
        ⟨hShown, hResults⟩
      rcases shown_takeTurns hSteady turns' hMachine
          fleet.scene.world with
        ⟨hShown', hResults'⟩
      rw [hOwn] at hShown' hResults'
      exact
        ⟨hShown'.trans hShown.symm,
          hResults'.trans hResults.symm⟩

end Fleet

/-
  Machines of one chart do not interfere if its hooks are
  steady. In whichever order they take turns, each of them
  has the results, the current state and the labels in its
  journal that it has when it performs its own labels alone,
  whatever the world is then. So two orders that give each
  machine the same labels agree on every machine.
-/
theorem Fleet.turns_do_not_interfere
    {host : Host G A W}
    {fleet : Fleet G A W}
    (hSteady : host.Steady fleet.scene.chart)
    (turns : List (Nat × String)) :
    let after := fleet.takeTurns host turns
    (∀ index m,
      fleet.machines[index]? = some m →
        ∀ world,
          let alone :=
            m.performAll host ⟨fleet.scene.chart, world⟩
              (own index turns)
          after.machines[index]?.map Machine.shown =
              some alone.machine.shown ∧
            results index after.reports =
              results index fleet.reports ++
                alone.results) ∧
      ∀ turns',
        (∀ index, own index turns' = own index turns) →
          let after' := fleet.takeTurns host turns'
          after'.machines.map Machine.shown =
              after.machines.map Machine.shown ∧
            ∀ index,
              results index after'.reports =
                results index after.reports := by
  intro after
  refine
    ⟨fun index m hMachine world =>
      shown_takeTurns hSteady turns hMachine world, ?_⟩
  intro turns' hOwn after'
  have hAgree :
      ∀ index,
        after'.machines[index]?.map Machine.shown =
            after.machines[index]?.map Machine.shown ∧
          results index after'.reports =
            results index after.reports :=
    fun index => shown_takeTurns_congr hSteady (hOwn index)
  refine ⟨?_, fun index => (hAgree index).2⟩
  apply List.ext_getElem?
  intro index
  rw [List.getElem?_map, List.getElem?_map]
  exact (hAgree index).1

------------------------------------------------------------
-- A Busy Gate
------------------------------------------------------------

/-
  Every hook of this chart says something or counts, and the
  action for pushing fails, but none of them looks at what
  the others counted.
-/
def busyGate : ScriptedChart :=
  (((Chart.empty.connect "locked" "open" "coin").connect
    "open" "locked" "push").edit
      (.gate "locked" "coin"
        (some (.log "coin" (.isState "locked"))))).editAll
    [ .entry "open" (some [.add "opened" 1]),
      .action "open" "push"
        (some [.add "pushed" 1, .fail "squeaky"]) ]

/- Its hooks answer the same in all worlds. -/
theorem busyGate_steady : scriptHost.Steady busyGate := by
  have hGates :
      busyGate.gates =
        [.log "coin" (.isState "locked")] := by
    rfl
  have hActions :
      busyGate.actions =
        [[.add "opened" 1],
          [.add "pushed" 1, .fail "squeaky"]] := by
    rfl
  refine ⟨⟨?_, ?_, ?_⟩, ?_⟩
  · simp [hGates, scriptHost, Condition.eval]
  · simp [hActions, scriptHost, Effect.runAll, Effect.run,
      Progress.start]
  · simp [hActions, scriptHost, Effect.runAll, Effect.run,
      Progress.start]
  · simp [scriptHost]

/- Two machines at the gate; one of them keeps no journal. -/
def busyFleet : Fleet Condition Script Variables :=
  (Fleet.launch busyGate LabelMap.empty).run scriptHost
    [.bind .standard, .bind .withoutJournal]

/- The same labels for each of them, in two orders. -/
def busyTurns : List (Nat × String) :=
  [ (0, "coin"), (1, "coin"), (1, "coin"), (0, "push"),
    (1, "push") ]

def calmTurns : List (Nat × String) :=
  [ (1, "coin"), (1, "coin"), (1, "push"), (0, "coin"),
    (0, "push") ]

/-
  Both machines fare the same in either order, and the
  second one as if it were alone.
-/
theorem Fleet.turns_do_not_interfere_busy :
    scriptHost.Steady busyFleet.scene.chart ∧
      busyTurns ≠ calmTurns ∧
      let busy := busyFleet.takeTurns scriptHost busyTurns
      let calm := busyFleet.takeTurns scriptHost calmTurns
      calm.machines.map Machine.shown =
          busy.machines.map Machine.shown ∧
        results 1 calm.reports =
          results 1 busy.reports ∧
        ∃ m,
          busyFleet.machines[1]? = some m ∧
            results 1 busy.reports =
              (m.performAll scriptHost busyFleet.scene
                ["coin", "coin", "push"]).results := by
  have hSteady : scriptHost.Steady busyFleet.scene.chart :=
    busyGate_steady
  have hOwn :
      ∀ index,
        own index calmTurns = own index busyTurns := by
    intro index
    by_cases hFirst : 0 = index
    · subst hFirst
      rfl
    · by_cases hSecond : 1 = index
      · subst hSecond
        rfl
      · simp [own, calmTurns, busyTurns, hFirst, hSecond]
  have hBound : busyFleet.machines[1]?.isSome = true := by
    rfl
  rcases Option.isSome_iff_exists.mp hBound with
    ⟨m, hMachine⟩
  rcases turns_do_not_interfere hSteady busyTurns with
    ⟨hAlone, hAgree⟩
  rcases hAgree calmTurns hOwn with ⟨hShown, hResults⟩
  have hSecond :=
    (hAlone 1 m hMachine busyFleet.scene.world).2
  exact
    ⟨hSteady, by decide, hShown, hResults 1, m, hMachine,
      hSecond⟩

------------------------------------------------------------
-- A Meddling Gate
------------------------------------------------------------

/-
  The gate of this host is open for everyone, but it puts an
  exit action into the state that it is asked about. The
  action writes nothing, and it always fails.
-/
def meddlingHost : Host Unit Unit Unit where
  check _ _ s _ :=
    { value := true
      world := ()
      edits := [.exit s.label (some ())]
      notes := [] }
  run _ _ _ _ :=
    { value := .error "stuck"
      world := ()
      edits := []
      notes := [] }
  clock _ := ⟨0, 0⟩

/- One of two ways to come back to a state is gated. -/
def meddledChart : Chart Unit Unit :=
  ((Chart.empty.connect "a" "a" "go").connect "a" "a"
    "stay").edit (.gate "a" "go" (some ()))

def meddledFleet : Fleet Unit Unit Unit :=
  (Fleet.launch meddledChart ()).run meddlingHost
    [.bind .standard, .bind .standard]

/-
  The hooks are predictable on every chart, also with what
  the gate has put there. Still the second machine can stay
  where it is only as long as the first one has not come to
  the gate.
-/
theorem Fleet.turns_interfere_through_gates :
    (∀ c, meddlingHost.Predictable c) ∧
      let early := [(1, "stay"), (0, "go")]
      let late := [(0, "go"), (1, "stay")]
      (∀ index, own index late = own index early) ∧
        results 1
            (meddledFleet.takeTurns meddlingHost
              early).reports =
          [.ok ()] ∧
        results 1
            (meddledFleet.takeTurns meddlingHost
              late).reports =
          [.error (.failedAction .exit "a" "stuck")] ∧
        ∃ m,
          meddledFleet.machines[1]? = some m ∧
            (m.performAll meddlingHost meddledFleet.scene
                (own 1 late)).results =
              [.ok ()] := by
  refine
    ⟨fun c => ⟨?_, ?_, ?_⟩, ?_, rfl, rfl, _, rfl, rfl⟩
  · intro gate _ s world world'
    rfl
  · intro action _ s world world'
    rfl
  · intro action _ s world
    rfl
  · intro index
    match index with
    | 0 => rfl
    | 1 => rfl
    | _ + 2 => simp [own]

end Statechart
