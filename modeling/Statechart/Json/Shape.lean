import Statechart.Json.Basic

/-
  This file defines how the parts of a value are taken out of
  JSON. A record is an object whose fields have fixed names,
  or a list of the values of these fields in order. Other
  fields of an object are passed over, but none of the fixed
  names may occur twice.

  Key definitions include:
    * `Json.string?`
    * `Json.flag?`
    * `Json.word?`
    * `Json.option?`
    * `Json.items?`
    * `Json.record?`
-/

namespace Statechart

namespace Json

------------------------------------------------------------
-- Simple Values
------------------------------------------------------------

/- A text. -/
def string? : Json → Option String
  | .string content => content
  | _ => none

/- A truth value. -/
def flag? : Json → Option Bool
  | .bool value => some value
  | _ => none

/- Natural numbers have to fit into 64 bits. -/
def wordLimit : Nat :=
  Nat.pow 2 64

/- A natural number below `wordLimit`. -/
def word? : Json → Option Nat
  | .number n =>
      match n.natural? with
      | none => none
      | some value =>
          if value < wordLimit then some value else none
  | _ => none

/- A value, or null for none. -/
def option?
    {α : Type}
    (ofJson? : Json → Option α) :
    Json → Option (Option α)
  | .null => some none
  | j => (ofJson? j).map some

/- Read every element of a list. -/
def readAll
    {α : Type}
    (ofJson? : Json → Option α) :
    List Json → Option (List α)
  | [] => some []
  | j :: rest =>
      match ofJson? j, readAll ofJson? rest with
      | some value, some values => some (value :: values)
      | _, _ => none

/- A list of values. -/
def items?
    {α : Type}
    (ofJson? : Json → Option α) :
    Json → Option (List α)
  | .list items => readAll ofJson? items
  | _ => none

------------------------------------------------------------
-- Records
------------------------------------------------------------

/- The values of the fields with a name. -/
def fieldsNamed
    (name : String)
    (fields : List (Option String × Json)) : List Json :=
  fields.filterMap fun f =>
    if f.1 = some name then some f.2 else none

/- The value of the only field with a name, if any. -/
def uniqueField?
    (fields : List (Option String × Json))
    (name : String) : Option (Option Json) :=
  match fieldsNamed name fields with
  | [] => some none
  | [value] => some (some value)
  | _ => none

/- Look up every name; none of them may be repeated. -/
def lookUpAll
    (fields : List (Option String × Json)) :
    List String → Option (List (Option Json))
  | [] => some []
  | name :: rest =>
      match uniqueField? fields name,
        lookUpAll fields rest with
      | some value, some values => some (value :: values)
      | _, _ => none

/- Fill a list of values up to a length. -/
def fillUp
    (length : Nat)
    (items : List Json) : List (Option Json) :=
  items.map some ++
    List.replicate (length - items.length) none

/-
  The values of the fields of a record, in the order of the
  names. If `partially` holds, a list may leave out fields at
  its end; otherwise it has to give all of them.

  This stands for the readers that such a library derives
  from the fields of a record. Assumed of them is that fields
  are found by their names in any order, that other fields
  are passed over, that no field may occur twice, and that a
  list stands for the values of the fields in their order.
-/
def record?
    (names : List String)
    (partially : Bool) :
    Json → Option (List (Option Json))
  | .object fields =>
      if fields.all (·.1.isSome) then
        lookUpAll fields names
      else
        none
  | .list items =>
      if items.length = names.length ∨
          (partially ∧ items.length ≤ names.length) then
        some (fillUp names.length items)
      else
        none
  | _ => none

/- The value of a field that may be missing. -/
def fieldOr
    {α : Type}
    (fallback : α)
    (ofJson? : Json → Option α) :
    Option Json → Option α
  | none => some fallback
  | some j => ofJson? j

end Json

end Statechart
