import Statechart.Journal.Saved
import Statechart.Proofs.Calendar.Timestamp
import Statechart.Proofs.Json.Reading
import Statechart.Proofs.Json.Shape

/-
  This file states that saved journals load back: the same
  moves in the same order, at the same times, and the same
  limit, even if the journal holds more moves than the limit
  allows.

  Key theorems include:
    * `Move.ofJson?_toJson`
    * `Journal.ofJson?_toJson`
    * `Journal.plain_toJson`
    * `Journal.load?_save`
-/

namespace Statechart

------------------------------------------------------------
-- Plain Values
------------------------------------------------------------

/- An object is plain if the values of its fields are. -/
theorem Json.plain_ofFields
    {fields : List (String × Json)}
    (hValues : ∀ f ∈ fields, f.2.Plain) :
    (ofFields fields).Plain := by
  apply Json.Plain.object
  · intro f hMember
    rcases List.mem_map.mp hMember with ⟨g, _, rfl⟩
    exact ⟨g.1, rfl⟩
  · intro f hMember
    rcases List.mem_map.mp hMember with ⟨g, hField, rfl⟩
    exact hValues g hField

theorem Move.plain_toJson (m : Move) :
    m.toJson.Plain := by
  apply Json.plain_ofFields
  simp only [List.forall_mem_cons, List.not_mem_nil,
    false_implies, implies_true, and_true]
  exact
    ⟨.string m.origin, .string m.transition,
      .string m.target, .string m.time.text⟩

theorem Journal.plain_toJson (j : Journal) :
    j.toJson.Plain := by
  have hMoves :
      (Json.list (j.moves.map Move.toJson)).Plain := by
    apply Json.Plain.list
    intro item hMember
    rcases List.mem_map.mp hMember with ⟨m, _, rfl⟩
    exact m.plain_toJson
  have hLimit : (Json.ofOption Json.ofNat j.limit).Plain := by
    cases j.limit with
    | none => exact .null
    | some n => exact .number n
  apply Json.plain_ofFields
  simp only [List.forall_mem_cons, List.not_mem_nil,
    false_implies, implies_true, and_true]
  exact ⟨hMoves, hLimit⟩

------------------------------------------------------------
-- Values
------------------------------------------------------------

/- A move at a regular time is found again in its value. -/
theorem Move.ofJson?_toJson
    {m : Move}
    (hTime : m.time.IsRegular) :
    ofJson? m.toJson = some m := by
  have hNames : fieldNames.Nodup := by decide
  have hFields :=
    @Json.record?_ofFields
      [ ("from", .ofText m.origin),
        ("transition", .ofText m.transition),
        ("to", .ofText m.target),
        ("timestamp", .ofText m.time.text) ]
      hNames false
  have hRead :
      Timestamp.ofJson? (.ofText m.time.text) = some m.time :=
    Timestamp.parse?_text hTime
  simp only [List.map_cons, List.map_nil] at hFields
  simp only [ofJson?, toJson, fieldNames, hFields, hRead]
  rfl

namespace Journal

/- A journal is found again in its value. -/
theorem ofJson?_toJson
    {j : Journal}
    (hTimes : ∀ m ∈ j.moves, m.time.IsRegular)
    (hLimit : ∀ n ∈ j.limit, n < Json.wordLimit) :
    ofJson? j.toJson = some j := by
  have hNames : fieldNames.Nodup := by decide
  have hFields :=
    @Json.record?_ofFields
      [ ("records", .list (j.moves.map Move.toJson)),
        ("limit", .ofOption .ofNat j.limit) ]
      hNames false
  have hMoves :
      Json.readAll Move.ofJson? (j.moves.map Move.toJson) =
        some j.moves :=
    Json.readAll_map fun m hMember =>
      Move.ofJson?_toJson (hTimes m hMember)
  have hRead := Json.option?_ofOption hLimit
  simp only [List.map_cons, List.map_nil] at hFields
  simp only [ofJson?, toJson, fieldNames, hFields,
    Json.items?, hMoves, Json.fieldOr, hRead]

/-
  A saved journal loads back as it was saved, so saving it
  again gives the same text.

  The text is written as compact JSON with the fields in the
  order of `fieldNames`, and times with the shortest exact
  fraction. That it is read as it was written rests on what
  is assumed of three readers, and said where they stand:
  `Json.read?`, `Json.record?` and `Timestamp.parse?`.
-/
theorem load?_save
    {j : Journal}
    (hTimes : ∀ m ∈ j.moves, m.time.IsRegular)
    (hLimit : ∀ n ∈ j.limit, n < Json.wordLimit) :
    load? j.save = some j ∧
      (load? j.save).map save = some j.save := by
  have hLoad : load? j.save = some j := by
    unfold load? save
    rw [j.plain_toJson.read?_write]
    exact ofJson?_toJson hTimes hLimit
  refine ⟨hLoad, ?_⟩
  rw [hLoad]
  rfl

/-
  The journal holds more moves than its limit allows, and the
  moves are not in the order of their times: the last second
  of the year 9999, a leap day, the second before 1970 and
  the first second of the year 1. The fractions of these
  times have nine, six, three and no digits.
-/
theorem load?_save_unordered :
    let j : Journal :=
      { moves :=
          [ ⟨"say \"hi\"", "a\\b", "",
              ⟨253402300799, 999999999⟩⟩,
            ⟨"\t\n\r", "\x00\x08\x1f", "\x7f",
              ⟨951782400, 1000⟩⟩,
            ⟨"naïve", "→", "😀", ⟨-1, 500000000⟩⟩,
            ⟨"/", "\x7b", "]", ⟨-62135596800, 0⟩⟩ ]
        limit := some 2 }
    (∀ m ∈ j.moves, m.time.IsRegular) ∧
      (∀ n ∈ j.limit, n < Json.wordLimit) ∧
      load? j.save = some j ∧
      (load? j.save).map save = some j.save := by
  intro j
  have hTimes : ∀ m ∈ j.moves, m.time.IsRegular := by
    simp only [j, List.forall_mem_cons, List.not_mem_nil,
      false_implies, implies_true, and_true]
    exact
      ⟨.of_year_le (by decide) (by decide) (by decide),
        .of_year_le (by decide) (by decide) (by decide),
        .of_year_le (by decide) (by decide) (by decide),
        .of_year_le (by decide) (by decide) (by decide)⟩
  have hLimit : ∀ n ∈ j.limit, n < Json.wordLimit := by
    intro n hSome
    rw [← Option.some.inj hSome]
    decide
  exact ⟨hTimes, hLimit, load?_save hTimes hLimit⟩

end Journal

end Statechart
