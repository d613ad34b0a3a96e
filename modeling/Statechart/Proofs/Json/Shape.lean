import Statechart.Json.Shape
import Statechart.Proofs.Text.Decimal

/-
  This file states that the parts of a value are taken out as
  they were put in.

  Key definitions include:
    * `Json.named`

  Key theorems include:
    * `Json.fieldsNamed_of_mem`
    * `Json.record?_ofFields`
    * `Json.readAll_map`
    * `Json.option?_ofOption`
-/

namespace Statechart

namespace Json

variable {α : Type}

------------------------------------------------------------
-- Records
------------------------------------------------------------

/- The fields that an object is made of. -/
def named
    (fields : List (String × Json)) :
    List (Option String × Json) :=
  fields.map fun f => (some f.1, f.2)

theorem fieldsNamed_of_not_mem
    {fields : List (String × Json)}
    {name : String}
    (hOther : name ∉ fields.map Prod.fst) :
    fieldsNamed name (named fields) = [] := by
  induction fields with
  | nil => rfl
  | cons f rest ih =>
      simp only [List.map_cons, List.mem_cons, not_or]
        at hOther
      have hFirst : f.1 ≠ name := Ne.symm hOther.1
      have hRest := ih hOther.2
      simp only [fieldsNamed, named] at hRest ⊢
      simp [hFirst, hRest]

/- A name that is not repeated has one field. -/
theorem fieldsNamed_of_mem
    {fields : List (String × Json)}
    (hNodup : (fields.map Prod.fst).Nodup)
    {f : String × Json}
    (hMember : f ∈ fields) :
    fieldsNamed f.1 (named fields) = [f.2] := by
  induction fields with
  | nil => cases hMember
  | cons g rest ih =>
      rcases List.nodup_cons.mp hNodup with ⟨hNew, hLater⟩
      rcases List.mem_cons.mp hMember with rfl | hRest
      · have hNone := fieldsNamed_of_not_mem hNew
        simp only [fieldsNamed, named] at hNone ⊢
        simp [hNone]
      · have hOther : g.1 ≠ f.1 := by
          intro hSame
          exact hNew (hSame ▸ List.mem_map_of_mem hRest)
        have hFound := ih hLater hRest
        simp only [fieldsNamed, named] at hFound ⊢
        simp [hOther, hFound]

/- Fields are looked up by their names, in order. -/
theorem lookUpAll_of_subset
    {fields part : List (String × Json)}
    (hNodup : (fields.map Prod.fst).Nodup)
    (hSubset : ∀ f ∈ part, f ∈ fields) :
    lookUpAll (named fields) (part.map Prod.fst) =
      some (part.map fun f => some f.2) := by
  induction part with
  | nil => rfl
  | cons f rest ih =>
      have hFirst :=
        fieldsNamed_of_mem hNodup
          (hSubset f List.mem_cons_self)
      have hRest := ih fun g hMember =>
        hSubset g (List.mem_cons_of_mem f hMember)
      simp [lookUpAll, uniqueField?, hFirst, hRest]

/- The fields of a record are found again. -/
theorem record?_ofFields
    {fields : List (String × Json)}
    (hNodup : (fields.map Prod.fst).Nodup)
    (partially : Bool) :
    (ofFields fields).record? (fields.map Prod.fst) partially =
      some (fields.map fun f => some f.2) := by
  have hNames :
      (named fields).all (·.1.isSome) = true := by
    simp [named]
  have hLookUp :=
    lookUpAll_of_subset hNodup fun _ hMember => hMember
  unfold ofFields record?
  unfold named at hNames hLookUp
  simp only [hNames, if_true, hLookUp]

------------------------------------------------------------
-- Lists and Optional Values
------------------------------------------------------------

theorem readAll_map
    {toJson : α → Json}
    {ofJson? : Json → Option α}
    {values : List α}
    (hEach :
      ∀ value ∈ values, ofJson? (toJson value) = some value) :
    readAll ofJson? (values.map toJson) = some values := by
  induction values with
  | nil => rfl
  | cons value rest ih =>
      have hFirst := hEach value List.mem_cons_self
      have hRest := ih fun other hMember =>
        hEach other (List.mem_cons_of_mem value hMember)
      simp [readAll, hFirst, hRest]

theorem word?_ofNat
    {n : Nat}
    (hWord : n < wordLimit) :
    word? (ofNat n) = some n := by
  simp [word?, ofNat, Numeral.natural?, Numeral.ofNat,
    Text.decimalValue_decimal, hWord]

theorem option?_ofOption
    {limit : Option Nat}
    (hWord : ∀ n ∈ limit, n < wordLimit) :
    option? word? (ofOption ofNat limit) = some limit := by
  cases limit with
  | none => rfl
  | some n =>
      have hRead := word?_ofNat (hWord n rfl)
      unfold ofOption option?
      split
      · rename_i hNull
        cases hNull
      · rw [hRead]
        rfl

end Json

end Statechart
