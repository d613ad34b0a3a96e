import Mathlib.Data.List.DropRight
import Statechart.Journal.Basic

/-
  This file states what a limit leaves of a journal: the
  newest moves, as many as the limit allows. Recording moves
  one after another leaves what recording all of them at
  once would leave, whatever the journal held before.

  Key definitions include:
    * `Journal.allowed`
    * `Journal.newest`

  Key theorems include:
    * `Journal.keep_eq_newest`
    * `Journal.length_newest`
    * `Journal.getLast?_newest`
    * `Journal.newest_newest_append`
    * `Journal.record_moves`
-/

namespace Statechart

namespace Journal

variable {α β : Type}

------------------------------------------------------------
-- The Newest Items
------------------------------------------------------------

/- How many of a number of items a limit allows. -/
def allowed
    (limit : Option Nat)
    (count : Nat) : Nat :=
  match limit with
  | none => count
  | some n => min n count

/- The last items of a list, up to a limit. -/
def newest
    (limit : Option Nat)
    (items : List α) : List α :=
  match limit with
  | none => items
  | some n => items.rtake n

theorem newest_suffix
    (limit : Option Nat)
    (items : List α) :
    newest limit items <:+ items := by
  cases limit with
  | none => exact List.suffix_rfl
  | some n => exact List.drop_suffix _ _

theorem map_newest
    (limit : Option Nat)
    (items : List α)
    (f : α → β) :
    (newest limit items).map f =
      newest limit (items.map f) := by
  cases limit with
  | none => rfl
  | some n => simp [newest, List.rtake]

theorem newest_zero
    (items : List α) :
    newest (some 0) items = [] :=
  List.rtake_zero items

theorem length_newest
    (limit : Option Nat)
    (items : List α) :
    (newest limit items).length =
      allowed limit items.length := by
  cases limit with
  | none => rfl
  | some n =>
      simp only [newest, allowed, List.rtake,
        List.length_drop]
      omega

/- The very last item is left out last. -/
theorem getLast?_newest
    {limit : Option Nat}
    (hLimit : limit ≠ some 0)
    (items : List α) :
    (newest limit items).getLast? = items.getLast? := by
  cases limit with
  | none => rfl
  | some n =>
      have hPositive : n ≠ 0 := fun hZero =>
        hLimit (congrArg some hZero)
      simp only [newest, List.rtake, List.getLast?_drop]
      split
      · rename_i hAll
        have hNone : items.length = 0 := by omega
        rw [List.eq_nil_of_length_eq_zero hNone]
        rfl
      · rfl

/-
  Items that are left out before others are added would be
  left out afterwards as well.
-/
theorem newest_newest_append
    (limit : Option Nat)
    (old new : List α) :
    newest limit (newest limit old ++ new) =
      newest limit (old ++ new) := by
  cases limit with
  | none => rfl
  | some n =>
      simp only [newest, List.rtake_eq_reverse_take_reverse,
        List.reverse_append, List.reverse_reverse,
        List.take_append, List.take_take,
        List.length_reverse]
      congr 3
      omega

------------------------------------------------------------
-- Keeping and Recording
------------------------------------------------------------

/- Forgetting the oldest moves keeps the newest ones. -/
theorem forget_eq_rtake
    (limit : Nat)
    (moves : List Move) :
    forget limit moves = moves.rtake limit := by
  unfold List.rtake
  induction moves with
  | nil => simp [forget]
  | cons m rest ih =>
      unfold forget
      split
      · rename_i hOver
        rw [ih]
        rw [List.length_cons] at hOver ⊢
        have hCount :
            rest.length + 1 - limit =
              rest.length - limit + 1 := by
          omega
        rw [hCount, List.drop_succ_cons]
      · rename_i hWithin
        have hCount : (m :: rest).length - limit = 0 := by
          omega
        rw [hCount, List.drop_zero]

theorem keep_eq_newest
    (limit : Option Nat)
    (moves : List Move) :
    keep limit moves = newest limit moves := by
  cases limit with
  | none => rfl
  | some n => exact forget_eq_rtake n moves

theorem record_moves
    (j : Journal)
    (m : Move) :
    (j.record m).moves =
      newest j.limit (j.moves ++ [m]) :=
  keep_eq_newest _ _

@[simp]
theorem record_limit
    (j : Journal)
    (m : Move) :
    (j.record m).limit = j.limit :=
  rfl

end Journal

end Statechart
