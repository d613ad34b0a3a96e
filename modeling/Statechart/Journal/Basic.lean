import Statechart.Calendar.Timestamp

/-
  This file defines journals: the moves that a machine made,
  oldest first. A journal with a limit forgets its oldest
  moves when it holds more than the limit allows.

  Key definitions include:
    * `Move`
    * `Journal`
    * `Journal.record`
    * `Journal.recordAll`
    * `Journal.path`
    * `Journal.duration?`
-/

namespace Statechart

------------------------------------------------------------
-- Moves
------------------------------------------------------------

/-
  A move leaves one state by a transition and enters another
  state at some time.
-/
structure Move where
  origin : String
  transition : String
  target : String
  time : Timestamp
deriving DecidableEq, Repr

------------------------------------------------------------
-- Journals
------------------------------------------------------------

/- Moves in order, and how many of them are kept at most. -/
structure Journal where
  moves : List Move
  limit : Option Nat
deriving DecidableEq, Repr

namespace Journal

/- An empty journal. -/
def empty (limit : Option Nat) : Journal where
  moves := []
  limit := limit

instance : Inhabited Journal :=
  ⟨empty none⟩

/- Forget the oldest moves until a number of them is left. -/
def forget
    (limit : Nat) : List Move → List Move
  | [] => []
  | m :: rest =>
      if limit < (m :: rest).length then
        forget limit rest
      else
        m :: rest

/- The moves that a limit leaves. -/
def keep
    (limit : Option Nat)
    (moves : List Move) : List Move :=
  match limit with
  | none => moves
  | some n => forget n moves

/- Add a move and forget the oldest ones over the limit. -/
def record
    (j : Journal)
    (m : Move) : Journal :=
  { j with moves := keep j.limit (j.moves ++ [m]) }

/- Add moves in order. -/
def recordAll
    (j : Journal)
    (moves : List Move) : Journal :=
  moves.foldl record j

/- Forget all moves. -/
def clear (j : Journal) : Journal :=
  { j with moves := [] }

/- The number of moves. -/
def size (j : Journal) : Nat :=
  j.moves.length

/- Is the journal without moves? -/
def isEmpty (j : Journal) : Bool :=
  j.moves.isEmpty

/- The oldest move. -/
def first? (j : Journal) : Option Move :=
  j.moves.head?

/- The newest move. -/
def last? (j : Journal) : Option Move :=
  j.moves.getLast?

/-
  The states that were visited: the origin of the oldest
  move, then the target of every move.
-/
def path (j : Journal) : List String :=
  (j.first?.map (·.origin)).toList ++
    j.moves.map (·.target)

/-
  The nanoseconds from the oldest to the newest move, zero
  if the newest move has the earlier time.
-/
def duration? (j : Journal) : Option Nat :=
  match j.first?, j.last? with
  | some first, some last =>
      some (Timestamp.elapsed first.time last.time)
  | _, _ => none

end Journal

end Statechart
