/-
  This file defines label maps: finite maps from labels to
  values whose entries are kept in strictly ascending label
  order. States of a chart, transitions of a state and
  variables of a host are all label maps, so every listing
  of labels in this library is ascending and free of
  repetitions.

  Labels are compared by code point, which is also the byte
  order of their UTF-8 encodings.

  Key definitions include:
    * `LabelMap`
    * `LabelMap.get?`
    * `LabelMap.contains`
    * `LabelMap.keys`
    * `LabelMap.values`
    * `LabelMap.insert`
    * `LabelMap.modify`
    * `LabelMap.map`
    * `LabelMap.ofKeys`
-/

namespace Statechart

------------------------------------------------------------
-- Entries
------------------------------------------------------------

/- Entries ascend strictly by label. -/
abbrev AscendingEntries
    {α : Type}
    (entries : List (String × α)) : Prop :=
  entries.Pairwise (fun x y => x.1 < y.1)

namespace Entries

variable {α : Type}

/- The value stored under a label, if any. -/
def find?
    (label : String) :
    List (String × α) → Option α
  | [] => none
  | (key, value) :: rest =>
      if key = label then
        some value
      else
        find? label rest

/-
  Put a value under a label, replacing the value that the
  label had and keeping ascending order otherwise.
-/
def put
    (label : String)
    (value : α) :
    List (String × α) → List (String × α)
  | [] => [(label, value)]
  | (key, old) :: rest =>
      if label < key then
        (label, value) :: (key, old) :: rest
      else if label = key then
        (label, value) :: rest
      else
        (key, old) :: put label value rest

/- Apply a function to the value under a label. -/
def adjust
    (label : String)
    (f : α → α) :
    List (String × α) → List (String × α)
  | [] => []
  | (key, value) :: rest =>
      if key = label then
        (key, f value) :: adjust label f rest
      else
        (key, value) :: adjust label f rest

/- An entry after `put` is the new one or an old one. -/
theorem mem_put
    {label : String}
    {value : α}
    {entries : List (String × α)}
    {e : String × α}
    (he : e ∈ put label value entries) :
    e = (label, value) ∨ e ∈ entries := by
  induction entries with
  | nil =>
      simpa [put] using he
  | cons head rest ih =>
      obtain ⟨key, old⟩ := head
      unfold put at he
      split at he
      · simpa using he
      · split at he
        · rcases List.mem_cons.mp he with h | h
          · exact Or.inl h
          · exact Or.inr (List.mem_cons_of_mem _ h)
        · rcases List.mem_cons.mp he with h | h
          · exact Or.inr (h ▸ List.mem_cons_self)
          · rcases ih h with h | h
            · exact Or.inl h
            · exact Or.inr (List.mem_cons_of_mem _ h)

/- Putting a value keeps the entries ascending. -/
theorem ascending_put
    (label : String)
    (value : α)
    {entries : List (String × α)}
    (hAsc : AscendingEntries entries) :
    AscendingEntries (put label value entries) := by
  induction entries with
  | nil =>
      simp [put, AscendingEntries]
  | cons head rest ih =>
      obtain ⟨key, old⟩ := head
      have hHead := (List.pairwise_cons.mp hAsc).1
      have hRest := (List.pairwise_cons.mp hAsc).2
      unfold put
      split
      · rename_i hLt
        refine List.pairwise_cons.mpr ⟨?_, hAsc⟩
        intro e he
        rcases List.mem_cons.mp he with h | h
        · exact h ▸ hLt
        · exact String.lt_trans hLt (hHead e h)
      · rename_i hNotLt
        split
        · rename_i hEq
          refine List.pairwise_cons.mpr ⟨?_, hRest⟩
          intro e he
          exact hEq ▸ hHead e he
        · rename_i hNe
          refine List.pairwise_cons.mpr ⟨?_, ih hRest⟩
          intro e he
          rcases mem_put he with h | h
          · subst h
            have hLe : key ≤ label :=
              String.not_lt.mp hNotLt
            apply Decidable.byContradiction
            intro hNot
            exact hNe
              (String.le_antisymm (String.not_lt.mp hNot) hLe)
          · exact hHead e h

/- Adjusting a value changes no label. -/
theorem map_fst_adjust
    (label : String)
    (f : α → α)
    (entries : List (String × α)) :
    (adjust label f entries).map Prod.fst =
      entries.map Prod.fst := by
  induction entries with
  | nil => rfl
  | cons head rest ih =>
      obtain ⟨key, value⟩ := head
      unfold adjust
      split <;> simp [ih]

/- Ascending order is a property of the labels alone. -/
theorem ascending_iff
    {entries : List (String × α)} :
    AscendingEntries entries ↔
      (entries.map Prod.fst).Pairwise (· < ·) := by
  simp [AscendingEntries, List.pairwise_map]

/- Adjusting a value keeps the entries ascending. -/
theorem ascending_adjust
    (label : String)
    (f : α → α)
    {entries : List (String × α)}
    (hAsc : AscendingEntries entries) :
    AscendingEntries (adjust label f entries) := by
  rw [ascending_iff, map_fst_adjust]
  exact ascending_iff.mp hAsc

end Entries

------------------------------------------------------------
-- Label Maps
------------------------------------------------------------

/-
  A label map is a list of entries in strictly ascending
  label order.
-/
structure LabelMap (α : Type) where
  entries : List (String × α)
  ascending : AscendingEntries entries
deriving DecidableEq

namespace LabelMap

variable {α : Type}

/- The map without entries. -/
def empty : LabelMap α :=
  ⟨[], List.Pairwise.nil⟩

instance : Inhabited (LabelMap α) :=
  ⟨empty⟩

/- The value stored under a label, if any. -/
def get?
    (m : LabelMap α)
    (label : String) : Option α :=
  Entries.find? label m.entries

/- Is there a value under this label? -/
def contains
    (m : LabelMap α)
    (label : String) : Bool :=
  (m.get? label).isSome

/- The labels in ascending order. -/
def keys (m : LabelMap α) : List String :=
  m.entries.map Prod.fst

/- The values in ascending order of their labels. -/
def values (m : LabelMap α) : List α :=
  m.entries.map Prod.snd

/- The number of entries. -/
def size (m : LabelMap α) : Nat :=
  m.entries.length

/- Is the map without entries? -/
def isEmpty (m : LabelMap α) : Bool :=
  m.entries.isEmpty

/- Put a value under a label; the last value wins. -/
def insert
    (m : LabelMap α)
    (label : String)
    (value : α) : LabelMap α :=
  ⟨Entries.put label value m.entries,
    Entries.ascending_put label value m.ascending⟩

/-
  Apply a function to the value under a label; a map
  without that label stays as it is.
-/
def modify
    (m : LabelMap α)
    (label : String)
    (f : α → α) : LabelMap α :=
  ⟨Entries.adjust label f m.entries,
    Entries.ascending_adjust label f m.ascending⟩

/- Apply a function to every value. -/
def map
    {β : Type}
    (m : LabelMap α)
    (f : α → β) : LabelMap β :=
  ⟨m.entries.map fun e => (e.1, f e.2),
    List.pairwise_map.mpr m.ascending⟩

/- The map that has exactly the given labels. -/
def ofKeys
    (labels : List String) : LabelMap Unit :=
  labels.foldl (fun m label => m.insert label ()) empty

end LabelMap

end Statechart
