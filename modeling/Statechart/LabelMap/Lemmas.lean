import Statechart.LabelMap.Basic

/-
  This file states what the operations on label maps do to
  the lookup `get?` and to the lists `keys` and `values`.
  A label map is determined by its lookups.

  Key theorems include:
    * `ascending_ext`
    * `LabelMap.get?_insert`
    * `LabelMap.get?_modify`
    * `LabelMap.get?_map`
    * `LabelMap.map_modify`
    * `LabelMap.mem_keys_iff`
    * `LabelMap.mem_values_iff`
    * `LabelMap.keys_ascending`
    * `LabelMap.keys_eq_iff`
    * `LabelMap.mem_keys_ofKeys`
    * `LabelMap.ext_get?`
-/

namespace Statechart

------------------------------------------------------------
-- Ascending Lists
------------------------------------------------------------

/- Lists in ascending order are determined by membership. -/
theorem ascending_ext
    {α : Type}
    {before : α → α → Prop}
    (hAsymm : ∀ {x y : α}, before x y → ¬ before y x)
    {left right : List α}
    (hLeft : left.Pairwise before)
    (hRight : right.Pairwise before)
    (hMember : ∀ x, x ∈ left ↔ x ∈ right) :
    left = right := by
  have hNodup :
      ∀ {list : List α},
        list.Pairwise before → list.Nodup := by
    intro list hList
    apply hList.imp
    intro x y hBefore hEq
    subst hEq
    exact hAsymm hBefore hBefore
  have hPerm : left.Perm right :=
    (List.perm_ext_iff_of_nodup
      (hNodup hLeft) (hNodup hRight)).mpr hMember
  exact
    hPerm.eq_of_pairwise
      (fun _ _ _ _ hBefore hAfter =>
        absurd hAfter (hAsymm hBefore))
      hLeft hRight

------------------------------------------------------------
-- Entries
------------------------------------------------------------

namespace Entries

variable {α : Type}

theorem find?_put
    (label other : String)
    (value : α)
    {entries : List (String × α)}
    (hAsc : AscendingEntries entries) :
    find? other (put label value entries) =
      if label = other then
        some value
      else
        find? other entries := by
  induction entries with
  | nil => rfl
  | cons head rest ih =>
      obtain ⟨key, old⟩ := head
      have hRest := (List.pairwise_cons.mp hAsc).2
      unfold put
      split
      · rfl
      · split
        · rename_i hEq
          subst hEq
          by_cases hOther : label = other <;>
            simp [find?, hOther]
        · rename_i hNe
          by_cases hKey : key = other
          · subst hKey
            simp [find?, hNe]
          · simp [find?, hKey, ih hRest]

theorem find?_adjust
    (label other : String)
    (f : α → α)
    (entries : List (String × α)) :
    find? other (adjust label f entries) =
      if label = other then
        (find? other entries).map f
      else
        find? other entries := by
  induction entries with
  | nil => simp [adjust, find?]
  | cons head rest ih =>
      obtain ⟨key, value⟩ := head
      by_cases hKey : key = label
      · subst hKey
        by_cases hOther : key = other
        · simp [adjust, find?, hOther]
        · simpa [adjust, find?, hOther] using ih
      · by_cases hOther : key = other
        · subst hOther
          simp [adjust, find?, hKey, Ne.symm hKey]
        · simp [adjust, find?, hKey, hOther, ih]

theorem mem_of_find?
    {label : String}
    {value : α}
    {entries : List (String × α)}
    (hFind : find? label entries = some value) :
    (label, value) ∈ entries := by
  induction entries with
  | nil => simp [find?] at hFind
  | cons head rest ih =>
      obtain ⟨key, old⟩ := head
      by_cases hKey : key = label
      · simp [find?, hKey] at hFind
        simp [hKey, hFind]
      · simp [find?, hKey] at hFind
        exact List.mem_cons_of_mem _ (ih hFind)

theorem find?_of_mem
    {label : String}
    {value : α}
    {entries : List (String × α)}
    (hAsc : AscendingEntries entries)
    (hMem : (label, value) ∈ entries) :
    find? label entries = some value := by
  induction entries with
  | nil => simp at hMem
  | cons head rest ih =>
      obtain ⟨key, old⟩ := head
      rcases List.mem_cons.mp hMem with h | h
      · cases h
        simp [find?]
      · have hLt : key < label :=
          (List.pairwise_cons.mp hAsc).1 _ h
        have hNe : key ≠ label := by
          intro hEq
          exact String.lt_irrefl label (hEq ▸ hLt)
        simp [find?, hNe, ih (List.pairwise_cons.mp hAsc).2 h]

theorem find?_map
    {β : Type}
    (label : String)
    (f : α → β)
    (entries : List (String × α)) :
    find? label (entries.map fun e => (e.1, f e.2)) =
      (find? label entries).map f := by
  induction entries with
  | nil => rfl
  | cons head rest ih =>
      obtain ⟨key, value⟩ := head
      by_cases hKey : key = label
      · simp [find?, hKey]
      · simp [find?, hKey, ih]

/- Ascending entries are determined by their lookups. -/
theorem eq_of_find?_eq
    {left right : List (String × α)}
    (hLeft : AscendingEntries left)
    (hRight : AscendingEntries right)
    (hFind : ∀ label, find? label left = find? label right) :
    left = right := by
  induction left generalizing right with
  | nil =>
      cases right with
      | nil => rfl
      | cons head rest =>
          have h := hFind head.1
          simp [find?] at h
  | cons head rest ih =>
      cases right with
      | nil =>
          have h := hFind head.1
          simp [find?] at h
      | cons head' rest' =>
          have hIn : head ∈ head' :: rest' :=
            mem_of_find?
              ((hFind head.1).symm.trans
                (find?_of_mem hLeft List.mem_cons_self))
          have hIn' : head' ∈ head :: rest :=
            mem_of_find?
              ((hFind head'.1).trans
                (find?_of_mem hRight List.mem_cons_self))
          have hHead : head = head' := by
            rcases List.mem_cons.mp hIn with h | h
            · exact h
            · rcases List.mem_cons.mp hIn' with h' | h'
              · exact h'.symm
              · have hLt :=
                  (List.pairwise_cons.mp hRight).1 _ h
                have hLt' :=
                  (List.pairwise_cons.mp hLeft).1 _ h'
                exact absurd hLt (String.lt_asymm hLt')
          subst hHead
          have hRest : rest = rest' := by
            refine ih (List.pairwise_cons.mp hLeft).2
              (List.pairwise_cons.mp hRight).2 ?_
            intro label
            by_cases hLabel : head.1 = label
            · have hNone :
                  ∀ {tail : List (String × α)},
                    AscendingEntries (head :: tail) →
                    find? label tail = none := by
                intro tail hAsc
                cases hCase : find? label tail with
                | none => rfl
                | some value =>
                    have hLt :=
                      (List.pairwise_cons.mp hAsc).1 _
                        (mem_of_find? hCase)
                    exact absurd hLt
                      (hLabel ▸ String.lt_irrefl head.1)
              rw [hNone hLeft, hNone hRight]
            · have h := hFind label
              simpa [find?, hLabel] using h
          rw [hRest]

end Entries

------------------------------------------------------------
-- Label Maps
------------------------------------------------------------

namespace LabelMap

variable {α : Type}

@[simp]
theorem get?_empty
    (label : String) :
    (empty : LabelMap α).get? label = none :=
  rfl

theorem get?_insert
    (m : LabelMap α)
    (label other : String)
    (value : α) :
    (m.insert label value).get? other =
      if label = other then
        some value
      else
        m.get? other :=
  Entries.find?_put label other value m.ascending

theorem get?_modify
    (m : LabelMap α)
    (label other : String)
    (f : α → α) :
    (m.modify label f).get? other =
      if label = other then
        (m.get? other).map f
      else
        m.get? other :=
  Entries.find?_adjust label other f m.entries

/- An entry is what the lookup of its label finds. -/
theorem mem_entries_iff
    (m : LabelMap α)
    {label : String}
    {value : α} :
    (label, value) ∈ m.entries ↔
      m.get? label = some value :=
  ⟨Entries.find?_of_mem m.ascending,
    Entries.mem_of_find?⟩

theorem get?_map
    {β : Type}
    (m : LabelMap α)
    (f : α → β)
    (label : String) :
    (m.map f).get? label = (m.get? label).map f :=
  Entries.find?_map label f m.entries

theorem contains_iff
    (m : LabelMap α)
    {label : String} :
    m.contains label = true ↔
      ∃ value, m.get? label = some value := by
  simp [contains, Option.isSome_iff_exists]

theorem mem_keys_iff
    (m : LabelMap α)
    {label : String} :
    label ∈ m.keys ↔ m.contains label = true := by
  rw [contains_iff]
  constructor
  · intro hMem
    obtain ⟨⟨key, value⟩, hEntry, rfl⟩ :=
      List.mem_map.mp hMem
    exact ⟨value, m.mem_entries_iff.mp hEntry⟩
  · rintro ⟨value, hGet⟩
    exact List.mem_map.mpr
      ⟨(label, value), m.mem_entries_iff.mpr hGet, rfl⟩

theorem mem_values_iff
    (m : LabelMap α)
    {value : α} :
    value ∈ m.values ↔
      ∃ label, m.get? label = some value := by
  constructor
  · intro hMem
    obtain ⟨⟨key, _⟩, hEntry, rfl⟩ :=
      List.mem_map.mp hMem
    exact ⟨key, m.mem_entries_iff.mp hEntry⟩
  · rintro ⟨label, hGet⟩
    exact List.mem_map.mpr
      ⟨(label, value), m.mem_entries_iff.mpr hGet, rfl⟩

/- The labels ascend strictly. -/
theorem keys_ascending
    (m : LabelMap α) :
    m.keys.Pairwise (· < ·) :=
  Entries.ascending_iff.mp m.ascending

@[simp]
theorem keys_modify
    (m : LabelMap α)
    (label : String)
    (f : α → α) :
    (m.modify label f).keys = m.keys :=
  Entries.map_fst_adjust label f m.entries

/- A label map is determined by its lookups. -/
theorem ext_get?
    {m n : LabelMap α}
    (hGet : ∀ label, m.get? label = n.get? label) :
    m = n := by
  obtain ⟨left, hLeft⟩ := m
  obtain ⟨right, hRight⟩ := n
  have hEq :=
    Entries.eq_of_find?_eq hLeft hRight hGet
  subst hEq
  rfl

@[simp]
theorem keys_map
    {β : Type}
    (m : LabelMap α)
    (f : α → β) :
    (m.map f).keys = m.keys := by
  simp [keys, map]

/- Maps have the same labels if they contain the same. -/
theorem keys_eq_iff
    {β : Type}
    {m : LabelMap α}
    {n : LabelMap β} :
    m.keys = n.keys ↔
      ∀ label, m.contains label = n.contains label := by
  constructor
  · intro hKeys label
    rw [Bool.eq_iff_iff, ← mem_keys_iff, ← mem_keys_iff,
      hKeys]
  · intro hContains
    have hUnit :
        (m.map fun _ => ()) = n.map fun _ => () := by
      apply ext_get?
      intro label
      have hLabel := hContains label
      unfold contains at hLabel
      rw [get?_map, get?_map]
      cases hLeft : m.get? label <;>
        cases hRight : n.get? label <;>
          simp [hLeft, hRight] at hLabel ⊢
    rw [← keys_map m fun _ => (), hUnit, keys_map]

/- Values that know their labels list the labels. -/
theorem values_map_eq_keys
    (m : LabelMap α)
    {f : α → String}
    (hKnown :
      ∀ label value,
        m.get? label = some value → f value = label) :
    m.values.map f = m.keys := by
  unfold values keys
  rw [List.map_map]
  apply List.map_congr_left
  rintro ⟨label, value⟩ hEntry
  exact hKnown label value (m.mem_entries_iff.mp hEntry)

/- The map of some labels has no other labels. -/
theorem mem_keys_ofKeys
    {labels : List String}
    {label : String} :
    label ∈ (ofKeys labels).keys ↔ label ∈ labels := by
  have hFold :
      ∀ m : LabelMap Unit,
        label ∈ (labels.foldl
            (fun m label => m.insert label ()) m).keys ↔
          label ∈ m.keys ∨ label ∈ labels := by
    induction labels with
    | nil => simp
    | cons first rest ih =>
        intro m
        rw [List.foldl_cons, ih, List.mem_cons,
          mem_keys_iff, mem_keys_iff, contains, contains,
          get?_insert]
        by_cases hFirst : first = label
        · simp [hFirst]
        · simp [hFirst, Ne.symm hFirst]
  rw [ofKeys, hFold empty]
  simp [keys, empty]

@[simp]
theorem values_map
    {β : Type}
    (m : LabelMap α)
    (f : α → β) :
    (m.map f).values = m.values.map f := by
  simp [values, map]

/-
  A modification that a function does not see is not seen in
  the image of the whole map either.
-/
theorem map_modify
    {β : Type}
    (m : LabelMap α)
    (label : String)
    {f : α → β}
    {g : α → α}
    (hUnseen : ∀ value, f (g value) = f value) :
    (m.modify label g).map f = m.map f := by
  apply ext_get?
  intro other
  rw [get?_map, get?_map, get?_modify]
  split
  · cases m.get? other with
    | none => rfl
    | some value => simp [hUnseen]
  · rfl

end LabelMap

end Statechart
