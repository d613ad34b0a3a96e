import Statechart.Calendar.Reading
import Statechart.Journal.Basic
import Statechart.Json.Reading
import Statechart.Json.Shape
import Statechart.Json.Writing

/-
  This file defines how journals are saved as JSON texts and
  loaded again. A saved journal is a record of its moves and
  its limit. The limit may be missing from an object; a
  journal or a move given as a list has to be complete.

  Key definitions include:
    * `Move.toJson`
    * `Move.ofJson?`
    * `Journal.toJson`
    * `Journal.ofJson?`
    * `Journal.save`
    * `Journal.load?`
-/

namespace Statechart

------------------------------------------------------------
-- Timestamps
------------------------------------------------------------

/- The time of a JSON value. -/
def Timestamp.ofJson? (j : Json) : Option Timestamp :=
  match j.string? with
  | none => none
  | some text => Timestamp.parse? text

------------------------------------------------------------
-- Moves
------------------------------------------------------------

namespace Move

/- The names of the fields of a move. -/
def fieldNames : List String :=
  ["from", "transition", "to", "timestamp"]

/- A move as a JSON value. -/
def toJson (m : Move) : Json :=
  .ofFields
    [ ("from", .ofText m.origin),
      ("transition", .ofText m.transition),
      ("to", .ofText m.target),
      ("timestamp", .ofText m.time.text) ]

/- The move of a JSON value. -/
def ofJson? (j : Json) : Option Move :=
  match j.record? fieldNames false with
  | some [some origin, some transition, some target,
      some time] =>
      match origin.string?, transition.string?,
        target.string?, Timestamp.ofJson? time with
      | some o, some tr, some ta, some ti =>
          some ⟨o, tr, ta, ti⟩
      | _, _, _, _ => none
  | _ => none

end Move

------------------------------------------------------------
-- Journals
------------------------------------------------------------

namespace Journal

/- The names of the fields of a journal. -/
def fieldNames : List String :=
  ["records", "limit"]

/- A journal as a JSON value. -/
def toJson (j : Journal) : Json :=
  .ofFields
    [ ("records", .list (j.moves.map Move.toJson)),
      ("limit", .ofOption .ofNat j.limit) ]

/- The journal of a JSON value. -/
def ofJson? (j : Json) : Option Journal :=
  match j.record? fieldNames false with
  | some [some moves, limit] =>
      match moves.items? Move.ofJson?,
        Json.fieldOr none (Json.option? Json.word?) limit with
      | some ms, some l => some ⟨ms, l⟩
      | _, _ => none
  | _ => none

/- The text of a journal. -/
def save (j : Journal) : String :=
  j.toJson.write

/- The journal of a text. -/
def load? (text : String) : Option Journal :=
  match Json.read? text with
  | none => none
  | some j => ofJson? j

end Journal

end Statechart
