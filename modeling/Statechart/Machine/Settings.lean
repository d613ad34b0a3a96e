import Statechart.Json.Reading
import Statechart.Json.Shape
import Statechart.Json.Writing

/-
  This file defines the settings of a machine: whether it
  keeps a journal and how many moves the journal holds.
  Settings are saved as JSON texts; every field that a text
  leaves out has its default.

  Key definitions include:
    * `Settings`
    * `Settings.standard`
    * `Settings.withoutJournal`
    * `Settings.save`
    * `Settings.load?`
-/

namespace Statechart

/- Settings of a machine. -/
structure Settings where
  keepsJournal : Bool
  journalLimit : Option Nat
deriving DecidableEq, Repr

namespace Settings

------------------------------------------------------------
-- Standard Settings
------------------------------------------------------------

/- How many moves a journal holds by default. -/
def defaultLimit : Nat :=
  1024

/- Keep a journal up to the default limit. -/
def standard : Settings where
  keepsJournal := true
  journalLimit := some defaultLimit

/- Keep no journal. -/
def withoutJournal : Settings :=
  { standard with keepsJournal := false }

instance : Inhabited Settings :=
  ⟨standard⟩

------------------------------------------------------------
-- Saved Settings
------------------------------------------------------------

/- The names of the fields of saved settings. -/
def fieldNames : List String :=
  ["record_history", "history_limit"]

/- Settings as a JSON value. -/
def toJson (s : Settings) : Json :=
  .ofFields
    [ ("record_history", .bool s.keepsJournal),
      ("history_limit", .ofOption .ofNat s.journalLimit) ]

/- The settings of a JSON value. -/
def ofJson? (j : Json) : Option Settings :=
  match j.record? fieldNames true with
  | some [keeps, limit] =>
      match Json.fieldOr standard.keepsJournal
          Json.flag? keeps,
        Json.fieldOr standard.journalLimit
          (Json.option? Json.word?) limit with
      | some k, some l => some ⟨k, l⟩
      | _, _ => none
  | _ => none

/- The text of settings. -/
def save (s : Settings) : String :=
  s.toJson.write

/- The settings of a text. -/
def load? (text : String) : Option Settings :=
  match Json.read? text with
  | none => none
  | some j => ofJson? j

end Settings

end Statechart
