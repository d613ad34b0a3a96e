import Statechart.Text.Pieces

/-
  This file defines how a text is split into statements.
  Every line is cut at its first `#`, statements are
  separated by `;`, runs of blanks inside a statement become
  single spaces, and statements without any other character
  are dropped. A statement may extend over several lines.

  Key definitions include:
    * `uncomment`
    * `collapse`
    * `statementChars`
    * `statements`
-/

namespace Statechart

------------------------------------------------------------
-- Comments
------------------------------------------------------------

/-
  Remove comments. A comment reaches from `#` to the end of
  the line and leaves the line feed in place. The flag tells
  whether the text starts inside a comment.
-/
def uncommentFrom : Bool → List Char → List Char
  | _, [] => []
  | false, c :: rest =>
      if c = '#' then
        uncommentFrom true rest
      else
        c :: uncommentFrom false rest
  | true, c :: rest =>
      if c = '\n' then
        c :: uncommentFrom false rest
      else
        uncommentFrom true rest

/- Remove the comments of a text. -/
def uncomment (text : List Char) : List Char :=
  uncommentFrom false text

------------------------------------------------------------
-- Statements
------------------------------------------------------------

/- Write the words of a text with single spaces between. -/
def collapse (text : List Char) : List Char :=
  Text.joinWith [' '] (Text.words text)

/- The statements of a text, as lists of characters. -/
def statementChars
    (text : List Char) : List (List Char) :=
  ((Text.pieces (· == ';') (uncomment text)).map
    collapse).filter fun s => !s.isEmpty

/- The statements of a text. -/
def statements (text : String) : List String :=
  (statementChars text.toList).map String.ofList

end Statechart
