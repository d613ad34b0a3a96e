import Statechart.Text.Pieces

/-
  This file defines transition rules and how a single rule
  is read. A rule is written

    SOURCE -> DESTINATION (LABEL)

  where the three names are identifiers and any blanks may
  stand around the arrow and around the parentheses, but not
  at either end of the rule.

  A hyphen belongs to identifiers and to the arrow. The sign
  `>` belongs to no identifier, so the first one in a rule
  ends the arrow, and the hyphen right before it is the
  arrow's own.

  Key definitions include:
    * `isIdentChar`
    * `isIdentifier`
    * `Rule`
    * `Rule.ofChars?`
    * `Rule.parse?`
    * `Rule.text`
-/

namespace Statechart

------------------------------------------------------------
-- Identifiers
------------------------------------------------------------

/-
  Identifier characters are the ASCII letters and digits,
  the underscore, the full stop and the hyphen.
-/
def isIdentChar (c : Char) : Bool :=
  c.isAlphanum || c == '_' || c == '.' || c == '-'

/- Identifiers are non-empty runs of identifier characters. -/
def isIdentifier (name : List Char) : Bool :=
  !name.isEmpty && name.all isIdentChar

------------------------------------------------------------
-- Rules
------------------------------------------------------------

/-
  A rule states that a transition with some label leads from
  a source state to a destination state.
-/
structure Rule where
  source : String
  destination : String
  label : String
deriving DecidableEq, Repr

namespace Rule

/- A name, if the characters form an identifier. -/
def name? (chars : List Char) : Option String :=
  if isIdentifier chars then
    some (String.ofList chars)
  else
    none

/-
  The part before the arrow, given the text before the first
  `>`: the text must end in the arrow's hyphen.
-/
def beforeArrow?
    (chars : List Char) : Option (List Char) :=
  match chars.reverse with
  | '-' :: rest => some rest.reverse
  | _ => none

/-
  The parts of a rule text: what stands before the arrow,
  between the arrow and the opening parenthesis, and between
  the parentheses. Nothing may follow the closing one.
-/
def parts?
    (text : List Char) :
    Option (List Char × List Char × List Char) :=
  match Text.cutAt '>' text with
  | none => none
  | some (left, right) =>
      match beforeArrow? left, Text.cutAt '(' right with
      | some source, some (destination, inner) =>
          match Text.cutAt ')' inner with
          | some (label, []) =>
              some (source, destination, label)
          | _ => none
      | _, _ => none

/- Read a rule from characters. -/
def ofChars? (text : List Char) : Option Rule :=
  match parts? text with
  | none => none
  | some (source, destination, label) =>
      match name? (Text.trimEnd source),
        name? (Text.trim destination),
        name? (Text.trim label) with
      | some s, some d, some l => some ⟨s, d, l⟩
      | _, _, _ => none

/- Read a rule. -/
def parse? (text : String) : Option Rule :=
  ofChars? text.toList

/- The usual way to write a rule. -/
def text (r : Rule) : String :=
  r.source ++ " -> " ++ r.destination ++
    " (" ++ r.label ++ ")"

end Rule

end Statechart
