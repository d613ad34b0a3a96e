import Statechart.Proofs.Journal.Newest

/-
  This file states what recording leaves of any journal,
  also of a loaded one that holds more moves than its limit
  allows: the newest of the old and the new moves, as many
  as the limit allows.

  The oldest moves are dropped one at a time. This comes to
  an end however far the limit is exceeded, after as many
  rounds as there are moves over the limit.

  Key definitions include:
    * `Journal.Evicts`

  Key theorems include:
    * `Journal.evicts_iff`
    * `Journal.recordAll_moves`
    * `Journal.last?_recordAll`
    * `Journal.recordAll_keeps_newest`
-/

namespace Statechart

namespace Journal

------------------------------------------------------------
-- Dropping the Oldest Moves
------------------------------------------------------------

/-
  As long as there are more moves than a limit allows, the
  oldest one is dropped. If this stops, the relation holds
  of the moves at the start, the number of rounds and the
  moves that are left.
-/
inductive Evicts
    (limit : Nat) :
    List Move → Nat → List Move → Prop where
  | stop
      {moves : List Move}
      (hWithin : moves.length ≤ limit) :
      Evicts limit moves 0 moves
  | drop
      {m : Move}
      {rest kept : List Move}
      {rounds : Nat}
      (hOver : limit < (m :: rest).length)
      (hRest : Evicts limit rest rounds kept) :
      Evicts limit (m :: rest) (rounds + 1) kept

/- There are as many rounds as moves over the limit. -/
theorem evicts_forget
    (limit : Nat)
    (moves : List Move) :
    Evicts limit moves (moves.length - limit)
      (forget limit moves) := by
  induction moves with
  | nil =>
      rw [List.length_nil, Nat.zero_sub]
      exact .stop (Nat.zero_le limit)
  | cons m rest ih =>
      unfold forget
      split
      · rename_i hOver
        have hRounds :
            (m :: rest).length - limit =
              rest.length - limit + 1 := by
          rw [List.length_cons] at hOver ⊢
          omega
        rw [hRounds]
        exact .drop hOver ih
      · rename_i hWithin
        have hRounds : (m :: rest).length - limit = 0 := by
          omega
        rw [hRounds]
        exact .stop (Nat.not_lt.mp hWithin)

theorem Evicts.unique
    {limit rounds rounds' : Nat}
    {moves kept kept' : List Move}
    (hLeft : Evicts limit moves rounds kept)
    (hRight : Evicts limit moves rounds' kept') :
    rounds = rounds' ∧ kept = kept' := by
  induction hLeft generalizing rounds' with
  | stop hWithin =>
      cases hRight with
      | stop _ => exact ⟨rfl, rfl⟩
      | drop hOver _ =>
          exact absurd hOver (Nat.not_lt.mpr hWithin)
  | drop hOver _ ih =>
      cases hRight with
      | stop hWithin =>
          exact absurd hOver (Nat.not_lt.mpr hWithin)
      | drop _ hRest =>
          rcases ih hRest with ⟨rfl, hKept⟩
          exact ⟨rfl, hKept⟩

/- Dropping always stops, in one way only. -/
theorem evicts_iff
    {limit rounds : Nat}
    {moves kept : List Move} :
    Evicts limit moves rounds kept ↔
      rounds = moves.length - limit ∧
        kept = newest (some limit) moves := by
  have hStops := evicts_forget limit moves
  rw [forget_eq_rtake] at hStops
  constructor
  · exact fun hEvicts => hEvicts.unique hStops
  · rintro ⟨rfl, rfl⟩
    exact hStops

------------------------------------------------------------
-- Recording Many Moves
------------------------------------------------------------

@[simp]
theorem recordAll_limit
    (j : Journal)
    (moves : List Move) :
    (j.recordAll moves).limit = j.limit := by
  induction moves generalizing j with
  | nil => rfl
  | cons m rest ih => exact ih (j.record m)

/-
  What is left was the newest part after every move, so one
  move is enough to bring a journal within its limit.
-/
theorem recordAll_moves
    (j : Journal)
    {moves : List Move}
    (hMoves : moves ≠ []) :
    (j.recordAll moves).moves =
      newest j.limit (j.moves ++ moves) := by
  induction moves generalizing j with
  | nil => exact absurd rfl hMoves
  | cons m rest ih =>
      -- The last move needs no induction hypothesis.
      cases rest with
      | nil => exact j.record_moves m
      | cons next rest =>
          have hRest :
              (j.recordAll (m :: next :: rest)).moves =
                newest (j.record m).limit
                  ((j.record m).moves ++ next :: rest) :=
            ih (j.record m) (List.cons_ne_nil next rest)
          rw [hRest, record_limit, record_moves,
            newest_newest_append, List.append_assoc,
            List.singleton_append]

/- The move that was recorded last is there, if any is. -/
theorem last?_recordAll
    (j : Journal)
    {moves : List Move}
    (hMoves : moves ≠ []) :
    (j.recordAll moves).last? =
      if j.limit = some 0 then
        none
      else
        some (moves.getLast hMoves) := by
  unfold last?
  rw [j.recordAll_moves hMoves]
  split
  · rename_i hZero
    rw [hZero, newest_zero]
    rfl
  · rename_i hLimit
    rw [getLast?_newest hLimit,
      List.getLast?_append_of_ne_nil _ hMoves,
      List.getLast?_eq_some_getLast hMoves]

/-
  However many moves a journal holds, once others are
  recorded it holds the newest of all of them, up to its
  limit, which stays the same. Dropping the moves over the
  limit stops after each of them; and the last one recorded
  is the last one held, unless none may be held.
-/
theorem recordAll_keeps_newest
    (j : Journal)
    {moves : List Move}
    (hMoves : moves ≠ []) :
    let k := j.recordAll moves
    let all := j.moves ++ moves
    k.limit = j.limit ∧
      k.moves <:+ all ∧
      k.size = allowed j.limit all.length ∧
      (∀ limit m,
        j.limit = some limit →
          (j.record m).size ≤ limit ∧
            ∀ rounds kept,
              Evicts limit (j.moves ++ [m]) rounds kept ↔
                rounds = j.size + 1 - limit ∧
                  kept = (j.record m).moves) ∧
      k.last? =
        if j.limit = some 0 then
          none
        else
          some (moves.getLast hMoves) := by
  intro k all
  have hKept : k.moves = newest j.limit all :=
    j.recordAll_moves hMoves
  refine
    ⟨j.recordAll_limit moves, ?_, ?_, ?_,
      j.last?_recordAll hMoves⟩
  · rw [hKept]
    exact newest_suffix _ _
  · unfold size
    rw [hKept, length_newest]
  · intro limit m hLimit
    have hRecorded := j.record_moves m
    rw [hLimit] at hRecorded
    constructor
    · unfold size
      rw [hRecorded, length_newest]
      exact Nat.min_le_left _ _
    · intro rounds kept
      rw [evicts_iff, hRecorded, List.length_append]
      rfl

/- Four moves, although two are allowed. -/
def overfull : Journal where
  moves :=
    [ ⟨"a", "go", "b", ⟨0, 0⟩⟩, ⟨"b", "go", "c", ⟨0, 0⟩⟩,
      ⟨"c", "go", "d", ⟨0, 0⟩⟩, ⟨"d", "go", "e", ⟨0, 0⟩⟩ ]
  limit := some 2

/-
  One more move leaves two of the five; the other three are
  dropped in as many rounds.
-/
theorem recordAll_keeps_newest_overfull :
    let m : Move := ⟨"e", "go", "f", ⟨0, 0⟩⟩
    let k := overfull.recordAll [m]
    [m] ≠ [] ∧
      k.limit = some 2 ∧
      k.moves <:+ overfull.moves ++ [m] ∧
      k.size = 2 ∧
      Evicts 2 (overfull.moves ++ [m]) 3 k.moves ∧
      k.last? = some m := by
  intro m k
  have hMoves : [m] ≠ [] := List.cons_ne_nil m []
  rcases recordAll_keeps_newest overfull hMoves with
    ⟨hLimit, hSuffix, hSize, hDropped, hLast⟩
  refine ⟨hMoves, hLimit, hSuffix, hSize, ?_, hLast⟩
  exact ((hDropped 2 m rfl).2 3 k.moves).mpr ⟨rfl, rfl⟩

end Journal

end Statechart
