import Statechart.Proofs.Machine.Fleet

/-
  This file states that journals and loggers only observe.
  Machines on the same chart that differ in their settings,
  and whose loggers are set and cleared at different times,
  give the same answers to the same calls, are in the same
  state after each of them, and make the same things happen.
  All that differs is what is written into the journals and
  sent to the loggers.

  Key definitions include:
    * `Happening.unlogged`
    * `Attempt.Agrees`
    * `Machine.Account`
    * `Machine.Tour`
    * `Machine.tour`
    * `Machine.calls`

  Key theorems include:
    * `Machine.perform_agrees`
    * `Machine.tour_calls`
    * `Machine.tour_only_observed`
-/

namespace Statechart

variable {G A W : Type}

------------------------------------------------------------
-- Lines of Loggers
------------------------------------------------------------

namespace Happening

def isLogged : Happening G A → Bool
  | logged _ _ => true
  | _ => false

/- All that happened but the lines for loggers. -/
def unlogged
    (trace : List (Happening G A)) :
    List (Happening G A) :=
  trace.filter fun h => !h.isLogged

@[simp]
theorem unlogged_append
    (first rest : List (Happening G A)) :
    unlogged (first ++ rest) =
      unlogged first ++ unlogged rest :=
  List.filter_append ..

@[simp]
theorem unlogged_log
    (m : Machine)
    (line : String) :
    unlogged (m.log line : List (Happening G A)) = [] := by
  simp [unlogged, isLogged, Machine.log]

end Happening

------------------------------------------------------------
-- Attempts That Agree
------------------------------------------------------------

/-
  Attempts agree if they have the same result and leave the
  same current state, chart and world, and if the same
  happened in both but for the lines of loggers. Journals
  are free to differ.
-/
structure Attempt.Agrees
    (a b : Attempt G A W) : Prop where
  result : a.result = b.result
  current : a.machine.current = b.machine.current
  scene : a.scene = b.scene
  trace :
    Happening.unlogged a.trace = Happening.unlogged b.trace

theorem Attempt.Agrees.after
    {a b : Attempt G A W}
    (hAgrees : a.Agrees b)
    {earlier earlier' : List (Happening G A)}
    (hEarlier :
      Happening.unlogged earlier =
        Happening.unlogged earlier') :
    (a.after earlier).Agrees (b.after earlier') where
  result := hAgrees.result
  current := hAgrees.current
  scene := hAgrees.scene
  trace := by
    simp only [Attempt.after, Happening.unlogged_append,
      hEarlier, hAgrees.trace]

namespace Machine

section Phases

variable {m n : Machine}

/- Only the line for the logger depends on the machine. -/
theorem refuse_agrees
    (hCurrent : m.current = n.current)
    (scene : Scene G A W)
    (fault : Fault)
    (line : String) :
    (m.refuse scene fault line).Agrees
      (n.refuse scene fault line) :=
  ⟨rfl, hCurrent, rfl, by simp [refuse]⟩

theorem runThen_agrees
    (host : Host G A W)
    (hCurrent : m.current = n.current)
    (scene : Scene G A W)
    (kind : HookKind)
    (slot : Option A)
    (state : String)
    {next next' : Scene G A W → Attempt G A W}
    (hNext : ∀ s, (next s).Agrees (next' s)) :
    (runThen host m scene kind slot state next).Agrees
      (runThen host n scene kind slot state next') := by
  unfold runThen
  cases hCase : (host.act scene kind slot state).value with
  | error cause =>
      simp only [hCase]
      exact ⟨rfl, hCurrent, rfl, rfl⟩
  | ok u =>
      simp only [hCase]
      exact (hNext _).after rfl

theorem conclude_agrees
    (host : Host G A W)
    (hCurrent : m.current = n.current)
    (origin label : String)
    (scene : Scene G A W) :
    (conclude host m origin label scene).Agrees
      (conclude host n origin label scene) := by
  unfold conclude
  rw [hCurrent]
  exact
    runThen_agrees host hCurrent scene .transition _ _
      fun _ => ⟨rfl, hCurrent, rfl, rfl⟩

theorem arrive_agrees
    (host : Host G A W)
    (hCurrent : m.current = n.current)
    (origin label : String)
    (scene : Scene G A W) :
    (arrive host m origin label scene).Agrees
      (arrive host n origin label scene) := by
  unfold arrive
  rw [hCurrent]
  exact
    runThen_agrees host hCurrent scene .entry _ _
      fun s => conclude_agrees host hCurrent origin label s

/-
  Whatever the settings say about the journal, machines move
  to the same state.
-/
theorem travel_agrees
    (host : Host G A W)
    (hCurrent : m.current = n.current)
    (label target : String)
    (scene : Scene G A W) :
    (travel host m label target scene).Agrees
      (travel host n label target scene) := by
  have hMoved :
      (m.moveTo label target
          (host.clock scene.world)).current =
        (n.moveTo label target
          (host.clock scene.world)).current :=
    rfl
  unfold travel
  rw [hCurrent]
  exact
    (arrive_agrees host hMoved n.current label scene).after
      (by simp)

theorem depart_agrees
    (host : Host G A W)
    (hCurrent : m.current = n.current)
    (label target : String)
    (scene : Scene G A W) :
    (depart host m label target scene).Agrees
      (depart host n label target scene) := by
  unfold depart
  rw [hCurrent]
  exact
    runThen_agrees host hCurrent scene .exit _ _
      fun s => travel_agrees host hCurrent label target s

end Phases

/- Machines in the same state make attempts that agree. -/
theorem perform_agrees
    (host : Host G A W)
    {m n : Machine}
    (hCurrent : m.current = n.current)
    (scene : Scene G A W)
    (label : String) :
    (m.perform host scene label).Agrees
      (n.perform host scene label) := by
  unfold perform
  rw [hCurrent]
  cases scene.chart.transition? n.current label with
  | none => exact refuse_agrees hCurrent scene _ _
  | some t =>
      apply Attempt.Agrees.after _ rfl
      split
      · split
        · exact depart_agrees host hCurrent label _ _
        · exact ⟨rfl, hCurrent, rfl, rfl⟩
      · exact refuse_agrees hCurrent _ _ _

/- Machines in the same state give the same answer. -/
theorem can_congr
    (host : Host G A W)
    {m n : Machine}
    (hCurrent : m.current = n.current)
    (scene : Scene G A W)
    (label : String) :
    m.can host scene label = n.can host scene label := by
  unfold can
  rw [hCurrent]

------------------------------------------------------------
-- Tours
------------------------------------------------------------

/- The answer to a call. -/
inductive Answer where
  | performed (result : Except Fault Unit)
  | told (answer : Except Fault Bool)

/-
  The answer to a call, the current state after it, and what
  happened during it.
-/
structure Account (G A : Type) where
  answer : Answer
  current : String
  trace : List (Happening G A)

/- An account without the lines for loggers. -/
def Account.unlogged
    (account : Account G A) : Account G A :=
  { account with trace := Happening.unlogged account.trace }

/-
  The accounts of the calls that a machine was given, oldest
  first, with the machine and the scene that they leave.
-/
structure Tour (G A W : Type) where
  accounts : List (Account G A)
  machine : Machine
  scene : Scene G A W

/-
  Obey one order. Calls are accounted for; setting and
  clearing the logger is not a call.
-/
def obey
    (host : Host G A W)
    (m : Machine)
    (scene : Scene G A W) :
    Fleet.Order → Tour G A W
  | .perform label =>
      let attempt := m.perform host scene label
      ⟨[⟨.performed attempt.result,
          attempt.machine.current, attempt.trace⟩],
        attempt.machine, attempt.scene⟩
  | .can label =>
      let asked := m.can host scene label
      ⟨[⟨.told asked.value, m.current, asked.trace⟩],
        m, asked.scene⟩
  | .setLogger logger =>
      ⟨[], { m with logger := logger }, scene⟩

/- Obey orders one after another. -/
def tour
    (host : Host G A W)
    (m : Machine)
    (scene : Scene G A W) :
    List Fleet.Order → Tour G A W
  | [] => ⟨[], m, scene⟩
  | order :: rest =>
      let first := m.obey host scene order
      let others := tour host first.machine first.scene rest
      { others with
        accounts := first.accounts ++ others.accounts }

def isCall : Fleet.Order → Bool
  | .perform _ => true
  | .can _ => true
  | .setLogger _ => false

/- The orders that are calls. -/
def calls
    (orders : List Fleet.Order) : List Fleet.Order :=
  orders.filter isCall

/- Tours agree if their accounts and what they leave do. -/
structure Tour.Agrees
    (a b : Tour G A W) : Prop where
  accounts :
    a.accounts.map Account.unlogged =
      b.accounts.map Account.unlogged
  current : a.machine.current = b.machine.current
  scene : a.scene = b.scene

/- A call is obeyed alike by machines in the same state. -/
theorem obey_agrees
    (host : Host G A W)
    {m n : Machine}
    (hCurrent : m.current = n.current)
    (scene : Scene G A W)
    {order : Fleet.Order}
    (hCall : isCall order = true) :
    (m.obey host scene order).Agrees
      (n.obey host scene order) := by
  cases order with
  | perform label =>
      have hAgrees :=
        perform_agrees host hCurrent scene label
      refine ⟨?_, hAgrees.current, hAgrees.scene⟩
      simp only [obey, List.map_cons, List.map_nil,
        Account.unlogged, hAgrees.result, hAgrees.current,
        hAgrees.trace]
  | can label =>
      have hSame := can_congr host hCurrent scene label
      refine ⟨?_, hCurrent, ?_⟩
      · simp only [obey, hSame, hCurrent]
      · simp only [obey, hSame]
  | setLogger logger => cases hCall

/-
  A tour agrees with the tour of its calls alone, made by
  any machine in the same state. By induction on the orders:
  a call is obeyed alike, and a change of the logger leaves
  the current state as it is.
-/
theorem tour_calls
    (host : Host G A W)
    {m n : Machine}
    (hCurrent : m.current = n.current)
    (scene : Scene G A W)
    (orders : List Fleet.Order) :
    (m.tour host scene orders).Agrees
      (n.tour host scene (calls orders)) := by
  induction orders generalizing m n scene with
  | nil => exact ⟨rfl, hCurrent, rfl⟩
  | cons order rest ih =>
      cases hCall : isCall order with
      | true =>
          have hFirst :=
            obey_agrees host hCurrent scene hCall
          have hRest :=
            ih hFirst.current (m.obey host scene order).scene
          have hCalls :
              calls (order :: rest) = order :: calls rest :=
            List.filter_cons_of_pos hCall
          rw [hFirst.scene] at hRest
          rw [hCalls]
          refine ⟨?_, ?_, ?_⟩
          · simp only [tour, List.map_append,
              hFirst.accounts, hFirst.scene, hRest.accounts]
          · simp only [tour, hFirst.scene, hRest.current]
          · simp only [tour, hFirst.scene, hRest.scene]
      | false =>
          have hCalls : calls (order :: rest) = calls rest :=
            List.filter_cons_of_neg (by simp [hCall])
          rw [hCalls]
          cases order with
          | perform label => cases hCall
          | can label => cases hCall
          | setLogger logger =>
              exact
                ih (m := { m with logger := logger })
                  hCurrent scene

/- Whether a chart can be bound to is no matter of settings. -/
theorem exists_bind
    {c : Chart G A}
    {settings : Settings}
    {m : Machine}
    (hBound : bind settings c = .ok m)
    (settings' : Settings) :
    ∃ n, bind settings' c = .ok n ∧
      m.current = n.current := by
  unfold bind at hBound ⊢
  cases hValid : c.validate with
  | error e =>
      simp only [hValid] at hBound
      cases hBound
  | ok u =>
      cases hInitial : c.initialState? with
      | none =>
          simp only [hValid, hInitial] at hBound
          cases hBound
      | some s =>
          simp only [hValid, hInitial] at hBound
          cases hBound
          exact ⟨start settings' s.label, rfl, rfl⟩

/-
  Whatever hooks do: machines that are bound to the same
  chart with different settings, and that are given the same
  calls with loggers set and cleared in between at different
  times, answer alike, are in the same state after each
  call, check the same gates and run the same actions, and
  leave the same hooks and the same world.
-/
theorem tour_only_observed
    {c : Chart G A}
    (host : Host G A W)
    (world : W)
    {settings : Settings}
    {m : Machine}
    (hBound : bind settings c = .ok m)
    (settings' : Settings)
    {orders orders' : List Fleet.Order}
    (hCalls : calls orders = calls orders') :
    ∃ n, bind settings' c = .ok n ∧
      let left := m.tour host ⟨c, world⟩ orders
      let right := n.tour host ⟨c, world⟩ orders'
      left.accounts.map Account.answer =
          right.accounts.map Account.answer ∧
        left.accounts.map Account.current =
          right.accounts.map Account.current ∧
        (left.accounts.map fun a =>
            Happening.unlogged a.trace) =
          (right.accounts.map fun a =>
            Happening.unlogged a.trace) ∧
        left.machine.current = right.machine.current ∧
        left.scene.chart = right.scene.chart ∧
        left.scene.world = right.scene.world := by
  rcases exists_bind hBound settings' with
    ⟨n, hOther, hCurrent⟩
  refine ⟨n, hOther, ?_⟩
  intro left right
  have hLeft : left.Agrees _ :=
    tour_calls host hCurrent ⟨c, world⟩ orders
  have hRight : right.Agrees _ :=
    tour_calls host rfl ⟨c, world⟩ orders'
  rw [← hCalls] at hRight
  have hAccounts :=
    hLeft.accounts.trans hRight.accounts.symm
  have hView :
      ∀ {α : Type} (view : Account G A → α),
        left.accounts.map (view ∘ Account.unlogged) =
          right.accounts.map (view ∘ Account.unlogged) := by
    intro α view
    rw [← List.map_map, ← List.map_map, hAccounts]
  have hScene := hLeft.scene.trans hRight.scene.symm
  exact
    ⟨hView Account.answer, hView Account.current,
      hView Account.trace,
      hLeft.current.trans hRight.current.symm,
      congrArg Scene.chart hScene,
      congrArg Scene.world hScene⟩

/-
  Two machines spin until they are dizzy. One keeps a
  journal and has a logger for a while; the other one keeps
  none and gets a logger later.
-/
theorem tour_only_observed_restless :
    let m := Machine.start .standard "on"
    let orders : List Fleet.Order :=
      [ .setLogger (some "first"), .perform "spin",
        .can "spin", .setLogger none, .perform "jump",
        .perform "spin" ]
    let orders' : List Fleet.Order :=
      [ .perform "spin", .can "spin",
        .setLogger (some "second"), .perform "jump",
        .perform "spin" ]
    bind .standard restless = .ok m ∧
      calls orders = calls orders' ∧
      ∃ n, bind .withoutJournal restless = .ok n ∧
        let left :=
          m.tour scriptHost ⟨restless, .empty⟩ orders
        let right :=
          n.tour scriptHost ⟨restless, .empty⟩ orders'
        left.accounts.map Account.answer =
            right.accounts.map Account.answer ∧
          left.accounts.map Account.current =
            right.accounts.map Account.current ∧
          (left.accounts.map fun a =>
              Happening.unlogged a.trace) =
            (right.accounts.map fun a =>
              Happening.unlogged a.trace) ∧
          left.machine.current = right.machine.current ∧
          left.scene.chart = right.scene.chart ∧
          left.scene.world = right.scene.world := by
  intro m orders orders'
  have hBound : bind .standard restless = .ok m := rfl
  have hCalls : calls orders = calls orders' := rfl
  exact
    ⟨hBound, hCalls,
      tour_only_observed scriptHost .empty hBound
        .withoutJournal hCalls⟩

end Machine

end Statechart
