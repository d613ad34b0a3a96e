import Statechart.Json.Basic

/-
  This file defines how JSON values are written: without any
  blanks, and with short escapes for the control characters
  that have one. Quotation marks, backslashes and control
  characters are escaped, nothing else is.

  Key definitions include:
    * `Json.escape`
    * `Json.chars`
    * `Json.write`
-/

namespace Statechart

namespace Json

------------------------------------------------------------
-- Strings
------------------------------------------------------------

/- The hexadecimal digit of a number below sixteen. -/
def hexDigit (n : Nat) : Char :=
  Nat.digitChar n

/- Write a character inside a string. -/
def escapeChar (c : Char) : List Char :=
  if c = '"' then
    ['\\', '"']
  else if c = '\\' then
    ['\\', '\\']
  else if c = '\n' then
    ['\\', 'n']
  else if c = '\r' then
    ['\\', 'r']
  else if c = '\t' then
    ['\\', 't']
  else if c = '\x08' then
    ['\\', 'b']
  else if c = '\x0c' then
    ['\\', 'f']
  else if c.toNat < 0x20 then
    ['\\', 'u', '0', '0', hexDigit (c.toNat / 16),
      hexDigit (c.toNat % 16)]
  else
    [c]

/- Write the characters of a string. -/
def escape (content : List Char) : List Char :=
  content.flatMap escapeChar

/- Write a string between quotation marks. -/
def quoted (content : List Char) : List Char :=
  '"' :: escape content ++ ['"']

/-
  Write the content of a string. A string without a text is
  written as the empty one.
-/
def contentChars (content : Option String) : List Char :=
  quoted (content.getD "").toList

------------------------------------------------------------
-- Values
------------------------------------------------------------

/- Write a number. -/
def Numeral.chars (n : Numeral) : List Char :=
  (if n.negative then ['-'] else []) ++ n.digits ++ n.tail

mutual

/- Write a value. -/
def chars : Json → List Char
  | .null => "null".toList
  | .bool true => "true".toList
  | .bool false => "false".toList
  | .number n => n.chars
  | .string content => contentChars content
  | .list items => '[' :: itemChars items ++ [']']
  | .object fields => '\x7b' :: fieldChars fields ++ ['\x7d']

/- Write items with commas between. -/
def itemChars : List Json → List Char
  | [] => []
  | [item] => item.chars
  | item :: next :: rest =>
      item.chars ++ ',' :: itemChars (next :: rest)

/- Write fields with commas between. -/
def fieldChars :
    List (Option String × Json) → List Char
  | [] => []
  | [(name, value)] =>
      contentChars name ++ ':' :: value.chars
  | (name, value) :: next :: rest =>
      contentChars name ++ ':' :: value.chars ++
        ',' :: fieldChars (next :: rest)

end

/- The text of a value. -/
def write (j : Json) : String :=
  String.ofList j.chars

end Json

end Statechart
