import Statechart.Dot.Drawing
import Statechart.Json.Reading
import Statechart.Json.Shape
import Statechart.Json.Writing

/-
  This file defines how the options of a drawing are saved as
  JSON texts and loaded again. A direction is saved as its
  code. It may also be given as an object with the code as
  its only field and null as the value.

  Key definitions include:
    * `Dot.Direction.ofJson?`
    * `Dot.Options.save`
    * `Dot.Options.load?`
-/

namespace Statechart

namespace Dot

------------------------------------------------------------
-- Directions
------------------------------------------------------------

namespace Direction

/- A direction as a JSON value. -/
def toJson (d : Direction) : Json :=
  .ofText d.code

/- The direction of a JSON value. -/
def ofJson? : Json → Option Direction
  | .string (some code) => ofCode? code
  | .object [(some code, .null)] => ofCode? code
  | _ => none

end Direction

------------------------------------------------------------
-- Options
------------------------------------------------------------

namespace Options

/- The names of the fields of saved options. -/
def fieldNames : List String :=
  ["rank_direction", "highlight"]

/- Options as a JSON value. -/
def toJson (o : Options) : Json :=
  .ofFields
    [ ("rank_direction",
        .ofOption Direction.toJson o.direction),
      ("highlight", .ofOption .ofText o.highlight) ]

/- The options of a JSON value. -/
def ofJson? (j : Json) : Option Options :=
  match j.record? fieldNames true with
  | some [direction, highlight] =>
      match Json.fieldOr none
          (Json.option? Direction.ofJson?) direction,
        Json.fieldOr none
          (Json.option? Json.string?) highlight with
      | some d, some h => some ⟨d, h⟩
      | _, _ => none
  | _ => none

/- The text of options. -/
def save (o : Options) : String :=
  o.toJson.write

/- The options of a text. -/
def load? (text : String) : Option Options :=
  match Json.read? text with
  | none => none
  | some j => ofJson? j

end Options

end Dot

end Statechart
