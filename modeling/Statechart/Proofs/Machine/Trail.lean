import Mathlib.Data.List.Chain
import Statechart.Proofs.Journal.Newest
import Statechart.Proofs.Machine.Fleet

/-
  The trail of a machine is the list of moves that it made,
  told from outside: from the labels that were attempted,
  the results that were reported, and the chart. Journals
  hold the newest part of the trail.

  Key definitions include:
    * `Leg`
    * `Leads`
    * `exitCompleted`
    * `Chart.trail`
    * `Fleet.attempts`

  Key theorems include:
    * `Chart.trail_leads`
    * `Chart.trail_append`
    * `Fleet.run_tracked`
    * `Fleet.journal_is_newest_trail`
-/

namespace Statechart

------------------------------------------------------------
-- Legs
------------------------------------------------------------

/- A move without the time at which it was made. -/
structure Leg where
  origin : String
  transition : String
  target : String
deriving DecidableEq, Repr

/- The leg of a move. -/
def Move.leg (m : Move) : Leg :=
  ⟨m.origin, m.transition, m.target⟩

namespace Leg

/- The states that are visited on the way. -/
def visited
    (start : String)
    (legs : List Leg) : List String :=
  start :: legs.map target

/- Where legs lead to. -/
def finish : String → List Leg → String
  | start, [] => start
  | _, leg :: rest => finish leg.target rest

/- Every leg starts where the one before it ends. -/
def Leads : String → List Leg → Prop
  | _, [] => True
  | start, leg :: rest =>
      leg.origin = start ∧ Leads leg.target rest

/- Later legs start where the earlier ones finish. -/
theorem Leads.drop
    {start : String}
    {legs : List Leg}
    (hLeads : Leads start legs)
    (count : Nat) :
    ∃ here,
      Leads here (legs.drop count) ∧
        (count ≤ legs.length →
          (visited start legs).drop count =
            visited here (legs.drop count)) := by
  induction count generalizing start legs with
  | zero => exact ⟨start, hLeads, fun _ => rfl⟩
  | succ count ih =>
      cases legs with
      | nil => exact ⟨start, trivial, nofun⟩
      | cons leg rest =>
          rcases ih hLeads.2 with ⟨here, hRest, hVisited⟩
          refine ⟨here, hRest, ?_⟩
          intro hCount
          exact hVisited (Nat.le_of_succ_le_succ hCount)

theorem Leads.isChain
    {start : String}
    {legs : List Leg}
    (hLeads : Leads start legs) :
    legs.IsChain fun x y => x.target = y.origin := by
  induction legs generalizing start with
  | nil => exact List.IsChain.nil
  | cons leg rest ih =>
      cases rest with
      | nil => exact List.IsChain.singleton _
      | cons next rest =>
          refine List.IsChain.cons_cons ?_ (ih hLeads.2)
          exact hLeads.2.1.symm

theorem finish_append
    (start : String)
    (first second : List Leg) :
    finish start (first ++ second) =
      finish (finish start first) second := by
  induction first generalizing start with
  | nil => rfl
  | cons leg rest ih => exact ih leg.target

theorem finish_eq_of_getLast?
    {start : String}
    {legs : List Leg}
    {leg : Leg}
    (hLast : legs.getLast? = some leg) :
    finish start legs = leg.target := by
  rcases List.getLast?_eq_some_iff.mp hLast with
    ⟨earlier, rfl⟩
  rw [finish_append]
  rfl

end Leg

------------------------------------------------------------
-- Trails
------------------------------------------------------------

/-
  Did an attempt with this result complete its exit phase?
  From then on only the entry action and the action of the
  transition can fail.
-/
def exitCompleted : Except Fault Unit → Bool
  | .ok () => true
  | .error (.failedAction .entry _ _) => true
  | .error (.failedAction .transition _ _) => true
  | .error _ => false

namespace Chart

variable {G A : Type}

/-
  The trail of attempts from a state: one leg along the
  chart for each attempt that completed its exit phase.
-/
def trail
    (c : Chart G A) :
    String → List (String × Except Fault Unit) → List Leg
  | _, [] => []
  | here, (label, result) :: rest =>
      match exitCompleted result, c.transition? here label with
      | true, some t =>
          ⟨here, label, t.destination⟩ ::
            c.trail t.destination rest
      | _, _ => c.trail here rest

theorem trail_append
    (c : Chart G A)
    (start : String)
    (first second : List (String × Except Fault Unit)) :
    c.trail start (first ++ second) =
      c.trail start first ++
        c.trail (Leg.finish start (c.trail start first))
          second := by
  induction first generalizing start with
  | nil => rfl
  | cons attempt rest ih =>
      obtain ⟨label, result⟩ := attempt
      simp only [List.cons_append, trail]
      split
      · rw [ih]
        rfl
      · exact ih start

theorem trail_leads
    (c : Chart G A)
    (start : String)
    (attempts : List (String × Except Fault Unit)) :
    Leg.Leads start (c.trail start attempts) := by
  induction attempts generalizing start with
  | nil => trivial
  | cons attempt rest ih =>
      obtain ⟨label, result⟩ := attempt
      simp only [trail]
      split
      · exact ⟨rfl, ih _⟩
      · exact ih start

/- Every leg of a trail is an edge of the chart. -/
theorem trail_edges
    (c : Chart G A)
    (start : String)
    (attempts : List (String × Except Fault Unit))
    {leg : Leg}
    (hLeg : leg ∈ c.trail start attempts) :
    ∃ t,
      c.transition? leg.origin leg.transition = some t ∧
        t.destination = leg.target := by
  induction attempts generalizing start with
  | nil => cases hLeg
  | cons attempt rest ih =>
      obtain ⟨label, result⟩ := attempt
      simp only [trail] at hLeg
      split at hLeg
      · rename_i t _ hFound
        rcases List.mem_cons.mp hLeg with rfl | hRest
        · exact ⟨t, hFound, rfl⟩
        · exact ih _ hRest
      · exact ih start hLeg

end Chart

------------------------------------------------------------
-- Machines That Follow a Trail
------------------------------------------------------------

/-
  A machine follows a trail if it is where the trail leads
  to, and if its journal, where it keeps one, holds the
  newest legs of the trail up to the limit.
-/
structure Machine.Follows
    (m : Machine)
    (start : String)
    (trail : List Leg) : Prop where
  current : m.current = Leg.finish start trail
  limit : m.journal.limit = m.settings.journalLimit
  kept :
    m.settings.keepsJournal = true →
      m.journal.moves.map Move.leg =
        Journal.newest m.settings.journalLimit trail
  unkept :
    m.settings.keepsJournal = false →
      m.journal.moves = []

namespace Machine

theorem start_follows
    (settings : Settings)
    (label : String) :
    (start settings label).Follows label [] where
  current := rfl
  limit := rfl
  kept _ := by
    cases hLimit : settings.journalLimit <;>
      simp [start, Journal.empty, Journal.newest, hLimit]
  unkept _ := rfl

/- The logger has no part in following a trail. -/
theorem Follows.setLogger
    {m : Machine}
    {start : String}
    {trail : List Leg}
    (hFollows : m.Follows start trail)
    (logger : Option String) :
    Follows { m with logger := logger } start trail :=
  ⟨hFollows.current, hFollows.limit, hFollows.kept,
    hFollows.unkept⟩

/- A move adds one leg to the trail. -/
theorem Follows.move
    {m m' : Machine}
    {start label target : String}
    {trail : List Leg}
    (hFollows : m.Follows start trail)
    (hMoved : Moved m label target m') :
    m'.Follows start
      (trail ++ [⟨m.current, label, target⟩]) := by
  cases hKeeps : m.settings.keepsJournal with
  | true =>
      rcases hMoved.recorded hKeeps with ⟨time, hJournal⟩
      refine ⟨?_, ?_, ?_, ?_⟩
      · rw [hMoved.current, Leg.finish_append]
        rfl
      · rw [hJournal, hMoved.settings, Journal.record_limit]
        exact hFollows.limit
      · intro _
        rw [hJournal, hMoved.settings, Journal.record_moves,
          Journal.map_newest, List.map_append,
          hFollows.kept hKeeps, hFollows.limit,
          Journal.newest_newest_append]
        rfl
      · intro hLost
        rw [hMoved.settings, hKeeps] at hLost
        cases hLost
  | false =>
      have hJournal := hMoved.unrecorded hKeeps
      refine ⟨?_, ?_, ?_, ?_⟩
      · rw [hMoved.current, Leg.finish_append]
        rfl
      · rw [hJournal, hMoved.settings]
        exact hFollows.limit
      · intro hKept
        rw [hMoved.settings, hKeeps] at hKept
        cases hKept
      · intro _
        rw [hJournal]
        exact hFollows.unkept hKeeps

end Machine

/-
  An attempt moves the machine exactly if it completes its
  exit phase.
-/
theorem Conduct.moved_iff_exitCompleted
    {G A W : Type}
    {host : Host G A W}
    {m m' : Machine}
    {scene scene' : Scene G A W}
    {label : String}
    {result : Except Fault Unit}
    {block : Block G A}
    (hConduct :
      Conduct host m scene label result m' scene' block) :
    (exitCompleted result = false ∧ m' = m) ∨
      (exitCompleted result = true ∧
        ∃ t,
          scene.chart.transition? m.current label = some t ∧
            Moved m label t.destination m') := by
  cases hConduct with
  | unknown hMissing => exact Or.inl ⟨rfl, rfl⟩
  | closed hFound hAsked => exact Or.inl ⟨rfl, rfl⟩
  | failedExit hFound hAsked hExit =>
      exact Or.inl ⟨rfl, rfl⟩
  | failedEntry hCrossed hEntry =>
      exact Or.inr ⟨rfl, _, hCrossed.found, hCrossed.moved⟩
  | failedAction hCrossed hEntry hAction =>
      exact Or.inr ⟨rfl, _, hCrossed.found, hCrossed.moved⟩
  | done hCrossed hEntry hAction =>
      exact Or.inr ⟨rfl, _, hCrossed.found, hCrossed.moved⟩

------------------------------------------------------------
-- Tracked Fleets
------------------------------------------------------------

namespace Fleet

variable {G A W : Type}

/- The attempt of a machine that a report is about. -/
def Report.attemptOf?
    (machine : Nat) :
    Report → Option (String × Except Fault Unit)
  | .performed index label result =>
      if index = machine then
        some (label, result)
      else
        none
  | _ => none

/- Does a report tell that a machine was bound? -/
def Report.isBound : Report → Bool
  | .bound _ _ => true
  | _ => false

/- The attempts of a machine, oldest first. -/
def attempts
    (machine : Nat)
    (reports : List Report) :
    List (String × Except Fault Unit) :=
  reports.filterMap (Report.attemptOf? machine)

/-
  A fleet is tracked if every machine has the settings that
  were reported when it was bound, and follows the trail of
  its reported attempts.
-/
structure Tracked
    (c : Chart G A)
    (fleet : Fleet G A W) : Prop where
  bound :
    ∀ index settings,
      .bound index settings ∈ fleet.reports →
        ∃ m, fleet.machines[index]? = some m ∧
          m.settings = settings
  unbound :
    ∀ index,
      fleet.machines.length ≤ index →
        attempts index fleet.reports = []
  follows :
    ∀ index (m : Machine),
      fleet.machines[index]? = some m →
        ∃ start, c.initial = some start ∧
          m.Follows start
            (c.trail start (attempts index fleet.reports))

theorem launch_tracked
    (c : Chart G A)
    (world : W) :
    (launch c world).Tracked c where
  bound := by simp [launch]
  unbound := by simp [launch, attempts]
  follows := by simp [launch]

theorem attempts_report
    (machine : Nat)
    (reports : List Report)
    (r : Report) :
    attempts machine (reports ++ [r]) =
      attempts machine reports ++
        (r.attemptOf? machine).toList := by
  unfold attempts
  rw [List.filterMap_append]
  cases hAttempt : r.attemptOf? machine <;>
    simp [hAttempt]

namespace Tracked

variable {c : Chart G A}
variable {fleet : Fleet G A W}

/-
  A fleet stays tracked if every machine goes on in step
  with the attempts that are reported.
-/
theorem advance
    (hTracked : fleet.Tracked c)
    (scene : Scene G A W)
    {machines : List Machine}
    {r : Report}
    (hLength : machines.length = fleet.machines.length)
    (hReport : r.isBound = false)
    (hUnbound :
      ∀ index,
        fleet.machines.length ≤ index →
          r.attemptOf? index = none)
    (hMachines :
      ∀ index (m m' : Machine),
        fleet.machines[index]? = some m →
        machines[index]? = some m' →
          m'.settings = m.settings ∧
            ∀ start,
              m.Follows start
                (c.trail start
                  (attempts index fleet.reports)) →
              m'.Follows start
                (c.trail start
                  (attempts index fleet.reports ++
                    (r.attemptOf? index).toList))) :
    Tracked c
      (report ⟨scene, machines, fleet.reports⟩ r) := by
  refine ⟨?_, ?_, ?_⟩
  · intro index settings hMember
    rcases List.mem_append.mp hMember with hOld | hNew
    · rcases hTracked.bound index settings hOld with
        ⟨m, hFound, hSettings⟩
      have hBound : index < machines.length := by
        rw [hLength]
        exact (List.getElem?_eq_some_iff.mp hFound).1
      have hFound' := List.getElem?_eq_getElem hBound
      exact
        ⟨_, hFound',
          (hMachines index m _ hFound hFound').1.trans
            hSettings⟩
    · rw [← List.mem_singleton.mp hNew] at hReport
      cases hReport
  · intro index hIndex
    have hOver : fleet.machines.length ≤ index :=
      hLength ▸ hIndex
    simp only [report, attempts_report]
    rw [hTracked.unbound index hOver, hUnbound index hOver]
    rfl
  · intro index m' hFound'
    have hBound : index < fleet.machines.length := by
      rw [← hLength]
      exact (List.getElem?_eq_some_iff.mp hFound').1
    have hFound := List.getElem?_eq_getElem hBound
    rcases hTracked.follows index _ hFound with
      ⟨start, hStart, hOld⟩
    refine ⟨start, hStart, ?_⟩
    simp only [report, attempts_report]
    exact (hMachines index _ m' hFound hFound').2 start hOld

/- Nothing is lost where no machine changes or attempts. -/
theorem quiet
    (hTracked : fleet.Tracked c)
    (scene : Scene G A W)
    {r : Report}
    (hReport : r.isBound = false)
    (hAttempt : ∀ index, r.attemptOf? index = none) :
    Tracked c
      (report ⟨scene, fleet.machines, fleet.reports⟩
        r) := by
  refine hTracked.advance scene rfl hReport
    (fun index _ => hAttempt index) ?_
  intro index m m' hFound hFound'
  cases hFound.symm.trans hFound'
  refine ⟨rfl, ?_⟩
  intro start hFollows
  simpa [hAttempt] using hFollows

/- One machine goes on, and the others stay as they are. -/
theorem set
    (hTracked : fleet.Tracked c)
    (scene : Scene G A W)
    {index : Nat}
    {m m' : Machine}
    (hMachine : fleet.machines[index]? = some m)
    {r : Report}
    (hReport : r.isBound = false)
    (hOthers :
      ∀ other, other ≠ index → r.attemptOf? other = none)
    (hSettings : m'.settings = m.settings)
    (hFollows :
      ∀ start,
        m.Follows start
          (c.trail start (attempts index fleet.reports)) →
        m'.Follows start
          (c.trail start
            (attempts index fleet.reports ++
              (r.attemptOf? index).toList))) :
    Tracked c
      (report
        ⟨scene, fleet.machines.set index m', fleet.reports⟩
        r) := by
  have hBound : index < fleet.machines.length :=
    (List.getElem?_eq_some_iff.mp hMachine).1
  refine hTracked.advance scene (by simp) hReport ?_ ?_
  · intro other hOther
    exact hOthers other (by omega)
  · intro other m₀ m₁ hFound hFound'
    by_cases hOther : other = index
    · subst hOther
      have hEq : m' = m₁ := by
        simpa [hBound] using hFound'
      cases hMachine.symm.trans hFound
      exact hEq ▸ ⟨hSettings, hFollows⟩
    · rw [List.getElem?_set_ne (Ne.symm hOther)] at hFound'
      cases hFound.symm.trans hFound'
      refine ⟨rfl, ?_⟩
      intro start hOld
      simpa [hOthers other hOther] using hOld

theorem bind
    (hWell : c.WellFormed)
    (hSound : fleet.Sound c)
    (hTracked : fleet.Tracked c)
    (settings : Settings) :
    (fleet.bind settings).Tracked c := by
  unfold Fleet.bind
  cases hBound :
      Machine.bind settings fleet.scene.chart with
  | error fault =>
      exact
        hTracked.quiet fleet.scene rfl (fun _ => rfl)
  | ok m =>
      rcases
          (hWell.of_sameTopology
            hSound.topology).bind_eq_ok_iff.mp hBound with
        ⟨_, label, hInitial, rfl⟩
      rw [hSound.topology.initial_eq] at hInitial
      refine ⟨?_, ?_, ?_⟩
      · intro index settings' hMember
        rcases List.mem_append.mp hMember with hOld | hNew
        · rcases hTracked.bound index settings' hOld with
            ⟨m, hFound, hSettings⟩
          have hIndex :=
            (List.getElem?_eq_some_iff.mp hFound).1
          refine ⟨m, ?_, hSettings⟩
          simpa [report, List.getElem?_append_left hIndex]
            using hFound
        · cases List.mem_singleton.mp hNew
          refine ⟨Machine.start settings label, ?_, rfl⟩
          simp [report]
      · intro index hIndex
        have hOver : fleet.machines.length ≤ index := by
          simp only [report, List.length_append,
            List.length_singleton] at hIndex
          omega
        simp only [report, attempts_report]
        rw [hTracked.unbound index hOver]
        rfl
      · intro index m hFound
        simp only [report] at hFound
        simp only [report, attempts_report,
          Report.attemptOf?, Option.toList_none,
          List.append_nil]
        by_cases hOld : index < fleet.machines.length
        · rw [List.getElem?_append_left hOld] at hFound
          exact hTracked.follows index m hFound
        · have hOver : fleet.machines.length ≤ index :=
            Nat.le_of_not_lt hOld
          rw [List.getElem?_append_right hOver] at hFound
          have hNew :=
            List.mem_singleton.mp
              (List.mem_of_getElem? hFound)
          refine ⟨label, hInitial, ?_⟩
          rw [hTracked.unbound index hOver, hNew]
          exact Machine.start_follows settings label

/-
  A machine that attempts a transition follows its trail on,
  by one leg if it completes the exit phase.
-/
theorem follows_perform
    {host : Host G A W}
    {m m' : Machine}
    {scene scene' : Scene G A W}
    {label : String}
    {result : Except Fault Unit}
    {block : Block G A}
    (hConduct :
      Conduct host m scene label result m' scene' block)
    (hScene : scene.chart.SameTopology c)
    {start : String}
    {earlier : List (String × Except Fault Unit)}
    (hFollows : m.Follows start (c.trail start earlier)) :
    m'.Follows start
      (c.trail start (earlier ++ [(label, result)])) := by
  rw [Chart.trail_append, ← hFollows.current]
  rcases hConduct.moved_iff_exitCompleted with
    ⟨hResult, rfl⟩ | ⟨hResult, t, hFound, hMoved⟩
  · simpa [Chart.trail, hResult] using hFollows
  · rcases hScene.exists_transition? hFound with
      ⟨t', hFound', hUnhooked⟩
    have hDestination : t'.destination = t.destination :=
      (Transition.fields_eq_of_unhooked_eq hUnhooked).2.2
    simp only [Chart.trail, hResult, hFound', hDestination]
    exact hFollows.move hMoved

theorem obey
    (hSound : fleet.Sound c)
    (hTracked : fleet.Tracked c)
    (host : Host G A W)
    {index : Nat}
    {m : Machine}
    (hMachine : fleet.machines[index]? = some m)
    (order : Order) :
    (fleet.obey host index m order).Tracked c := by
  cases order with
  | perform label =>
      have hWalks :=
        hSound.walks (List.mem_of_getElem? hMachine)
      rcases m.perform_conducted host hWalks label with
        ⟨block, hConduct, _⟩
      refine hTracked.set _ hMachine rfl ?_ ?_ ?_
      · intro other hOther
        simp [Report.attemptOf?, Ne.symm hOther]
      · rcases hConduct.unchanged_or_moved with
          hSame | ⟨t, _, hMoved⟩
        · rw [hSame]
        · exact hMoved.settings
      · intro start hFollows
        simpa [Report.attemptOf?] using
          follows_perform hConduct hSound.topology hFollows
  | can label => exact hTracked.quiet _ rfl (fun _ => rfl)
  | setLogger logger =>
      refine
        hTracked.set _ hMachine rfl (fun _ _ => rfl) rfl ?_
      intro start hFollows
      simpa [Report.attemptOf?] using
        hFollows.setLogger logger

/- Whatever is commanded, a tracked fleet stays tracked. -/
theorem step
    (hWell : c.WellFormed)
    (host : Host G A W)
    (hSound : fleet.Sound c)
    (hTracked : fleet.Tracked c)
    (command : Command G A W) :
    (fleet.step host command).Tracked c := by
  cases command with
  | bind settings => exact hTracked.bind hWell hSound settings
  | tell index order =>
      simp only [Fleet.step]
      cases hMachine : fleet.machines[index]? with
      | none => exact hTracked.quiet _ rfl (fun _ => rfl)
      | some m =>
          exact hTracked.obey hSound host hMachine order
  | edit e => exact hTracked.quiet _ rfl (fun _ => rfl)
  | setWorld world =>
      exact hTracked.quiet _ rfl (fun _ => rfl)

end Tracked

theorem run_tracked
    {c : Chart G A}
    (hWell : c.WellFormed)
    (host : Host G A W)
    (world : W)
    (commands : List (Command G A W)) :
    ((launch c world).run host commands).Tracked c := by
  have hBoth :
      ((launch c world).run host commands).Sound c ∧
        ((launch c world).run host commands).Tracked c := by
    refine run_invariant
      (fun fleet => fleet.Sound c ∧ fleet.Tracked c) ?_ ?_
      commands
    · rintro fleet command ⟨hSound, hTracked⟩
      exact
        ⟨hSound.step hWell host command,
          hTracked.step hWell host hSound command⟩
    · exact ⟨launch_sound c world, launch_tracked c world⟩
  exact hBoth.2

end Fleet

------------------------------------------------------------
-- Journals and Trails
------------------------------------------------------------

namespace Machine.Follows

variable {m : Machine}
variable {start : String}
variable {trail : List Leg}

/- The legs in the journal are the last ones of the trail. -/
theorem legs_suffix
    (hFollows : m.Follows start trail) :
    m.journal.moves.map Move.leg <:+ trail := by
  cases hKeeps : m.settings.keepsJournal with
  | true =>
      rw [hFollows.kept hKeeps]
      exact Journal.newest_suffix _ _
  | false =>
      rw [hFollows.unkept hKeeps]
      exact List.nil_suffix

theorem moves_isChain
    (hFollows : m.Follows start trail)
    (hLeads : Leg.Leads start trail) :
    m.journal.moves.IsChain
      fun x y => x.target = y.origin := by
  have hLegs :=
    hLeads.isChain.suffix hFollows.legs_suffix
  rwa [List.isChain_map] at hLegs

/- The newest move has led to the current state. -/
theorem last_target
    (hFollows : m.Follows start trail)
    {move : Move}
    (hLast : m.journal.last? = some move) :
    move.target = m.current := by
  rcases hFollows.legs_suffix with ⟨earlier, hTrail⟩
  have hLeg :
      trail.getLast? = some move.leg := by
    rw [← hTrail, List.getLast?_append, List.getLast?_map]
    unfold Journal.last? at hLast
    rw [hLast]
    rfl
  rw [hFollows.current, Leg.finish_eq_of_getLast? hLeg]
  rfl

/-
  The path in the journal is what the limit leaves of the
  visited states: one more than it leaves of the legs.
-/
theorem path_eq
    (hFollows : m.Follows start trail)
    (hLeads : Leg.Leads start trail)
    (hMoves : m.journal.moves ≠ []) :
    m.journal.path =
      Journal.newest
        (m.settings.journalLimit.map (· + 1))
        (Leg.visited start trail) := by
  have hKeeps : m.settings.keepsJournal = true := by
    cases hKeeps : m.settings.keepsJournal with
    | true => rfl
    | false => exact absurd (hFollows.unkept hKeeps) hMoves
  have hLegs := hFollows.kept hKeeps
  have hPath :
      ∀ here,
        Leg.Leads here (m.journal.moves.map Move.leg) →
          m.journal.path =
            Leg.visited here
              (m.journal.moves.map Move.leg) := by
    intro here hHere
    unfold Journal.path Journal.first? Leg.visited
    cases hCase : m.journal.moves with
    | nil => exact absurd hCase hMoves
    | cons move rest =>
        rw [hCase] at hHere
        have hOrigin : move.origin = here := hHere.1
        simp [← hOrigin, Function.comp_def, Move.leg]
  cases hLimit : m.settings.journalLimit with
  | none =>
      rw [hLimit] at hLegs
      have hAll : m.journal.moves.map Move.leg = trail :=
        hLegs
      rw [hPath start (hAll.symm ▸ hLeads), hAll]
      rfl
  | some n =>
      rw [hLimit] at hLegs
      have hDrop :
          m.journal.moves.map Move.leg =
            trail.drop (trail.length - n) :=
        hLegs
      rcases hLeads.drop (trail.length - n) with
        ⟨here, hHere, hVisited⟩
      rw [← hDrop] at hHere hVisited
      rw [hPath here hHere, ← hVisited (Nat.sub_le _ _)]
      simp [Journal.newest, List.rtake, Leg.visited]

end Machine.Follows

/-
  The journal of a machine is the newest part of its trail,
  whatever its attempts came to and whatever else happened
  in between: nothing for a machine that keeps no journal,
  and otherwise as many of the last legs as the limit
  allows.
-/
theorem Fleet.journal_is_newest_trail
    {G A W : Type}
    {c : Chart G A}
    (hBuilt : c.Built)
    (host : Host G A W)
    (world : W)
    (commands : List (Command G A W))
    {index : Nat}
    {settings : Settings}
    (hBound :
      .bound index settings ∈
        ((launch c world).run host commands).reports) :
    let fleet := (launch c world).run host commands
    ∃ m start,
      fleet.machines[index]? = some m ∧
        c.initial = some start ∧
        let trail :=
          c.trail start (attempts index fleet.reports)
        let moves := m.journal.moves
        m.current = Leg.finish start trail ∧
          (settings.keepsJournal = false → moves = []) ∧
          (settings.keepsJournal = true →
            moves.map Move.leg =
              Journal.newest settings.journalLimit trail) ∧
          (∀ move ∈ moves,
            ∃ t,
              c.transition? move.origin move.transition =
                  some t ∧
                t.destination = move.target) ∧
          (moves.IsChain fun x y => x.target = y.origin) ∧
          (∀ move,
            m.journal.last? = some move →
              move.target = m.current) ∧
          (moves = [] → m.journal.path = []) ∧
          (moves ≠ [] →
            m.journal.path =
              Journal.newest
                (settings.journalLimit.map (· + 1))
                (Leg.visited start trail)) := by
  intro fleet
  have hTracked : fleet.Tracked c :=
    run_tracked hBuilt.wellFormed host world commands
  rcases hTracked.bound index settings hBound with
    ⟨m, hMachine, rfl⟩
  rcases hTracked.follows index m hMachine with
    ⟨start, hStart, hFollows⟩
  have hLeads :=
    c.trail_leads start (attempts index fleet.reports)
  refine
    ⟨m, start, hMachine, hStart, hFollows.current,
      hFollows.unkept, hFollows.kept, ?_,
      hFollows.moves_isChain hLeads,
      fun _ => hFollows.last_target, ?_,
      hFollows.path_eq hLeads⟩
  · intro move hMove
    have hLeg : move.leg ∈ m.journal.moves.map Move.leg :=
      List.mem_map_of_mem hMove
    exact
      c.trail_edges start _
        (hFollows.legs_suffix.subset hLeg)
  · intro hMoves
    simp [Journal.path, Journal.first?, hMoves]

/- The first machine of the restless chart moves once. -/
theorem Fleet.journal_is_newest_trail_restless :
    restless.Built ∧
      let fleet :=
        (launch restless LabelMap.empty).run scriptHost
          restlessCommands
      .bound 0 .standard ∈ fleet.reports ∧
        ∃ m start,
          fleet.machines[0]? = some m ∧
            restless.initial = some start ∧
            let trail :=
              restless.trail start
                (attempts 0 fleet.reports)
            let moves := m.journal.moves
            m.current = Leg.finish start trail ∧
              (Settings.standard.keepsJournal = false →
                moves = []) ∧
              (Settings.standard.keepsJournal = true →
                moves.map Move.leg =
                  Journal.newest
                    Settings.standard.journalLimit trail) ∧
              (∀ move ∈ moves,
                ∃ t,
                  restless.transition? move.origin
                        move.transition =
                      some t ∧
                    t.destination = move.target) ∧
              (moves.IsChain
                fun x y => x.target = y.origin) ∧
              (∀ move,
                m.journal.last? = some move →
                  move.target = m.current) ∧
              (moves = [] → m.journal.path = []) ∧
              (moves ≠ [] →
                m.journal.path =
                  Journal.newest
                    (Settings.standard.journalLimit.map
                      (· + 1))
                    (Leg.visited start trail)) := by
  have hBound :
      .bound 0 .standard ∈
        ((launch restless LabelMap.empty).run scriptHost
          restlessCommands).reports := by
    apply List.mem_of_getElem?
    show _[0]? = _
    rfl
  exact
    ⟨restless_built, hBound,
      journal_is_newest_trail restless_built scriptHost
        LabelMap.empty restlessCommands hBound⟩

end Statechart
