import Statechart.Text.Blank

/-
  This file defines how texts, given as lists of characters,
  are taken apart and put together: cutting at the first
  occurrence of a character, trimming blanks, splitting into
  pieces between separators, and joining pieces again.

  Key definitions include:
    * `cutAt`
    * `trimStart`
    * `trimEnd`
    * `pieces`
    * `words`
    * `joinWith`
-/

namespace Statechart

namespace Text

------------------------------------------------------------
-- Cutting
------------------------------------------------------------

/-
  The parts before and after the first occurrence of a
  character, if it occurs.
-/
def cutAt
    (mark : Char) :
    List Char → Option (List Char × List Char)
  | [] => none
  | c :: rest =>
      if c = mark then
        some ([], rest)
      else
        match cutAt mark rest with
        | none => none
        | some (before, after) => some (c :: before, after)

------------------------------------------------------------
-- Trimming
------------------------------------------------------------

/- Drop the blanks at the start of a text. -/
def trimStart : List Char → List Char
  | [] => []
  | c :: rest =>
      if isBlank c then
        trimStart rest
      else
        c :: rest

/- Drop the blanks at the end of a text. -/
def trimEnd : List Char → List Char
  | [] => []
  | c :: rest =>
      match trimEnd rest with
      | [] => if isBlank c then [] else [c]
      | d :: kept => c :: d :: kept

/- Drop the blanks at both ends of a text. -/
def trim (text : List Char) : List Char :=
  trimEnd (trimStart text)

------------------------------------------------------------
-- Splitting
------------------------------------------------------------

/- Put a character in front of the first piece. -/
def consFirst
    (c : Char) :
    List (List Char) → List (List Char)
  | [] => [[c]]
  | piece :: rest => (c :: piece) :: rest

/-
  The pieces of a text between separators. A text with `n`
  separators has `n + 1` pieces, some of them empty perhaps.
-/
def pieces
    (isSeparator : Char → Bool) :
    List Char → List (List Char)
  | [] => [[]]
  | c :: rest =>
      if isSeparator c then
        [] :: pieces isSeparator rest
      else
        consFirst c (pieces isSeparator rest)

/- The maximal runs of characters that are not blank. -/
def words (text : List Char) : List (List Char) :=
  (pieces isBlank text).filter fun w => !w.isEmpty

------------------------------------------------------------
-- Joining
------------------------------------------------------------

/- Join pieces, with a separator between two pieces. -/
def joinWith
    (separator : List Char) :
    List (List Char) → List Char
  | [] => []
  | [piece] => piece
  | piece :: next :: rest =>
      piece ++ separator ++ joinWith separator (next :: rest)

end Text

end Statechart
