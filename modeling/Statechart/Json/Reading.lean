import Statechart.Json.Basic

/-
  This file defines how JSON texts are read. The reader takes
  exactly the grammar of the format: blanks are space, tab,
  line feed and carriage return, numbers have no leading
  zeros, control characters do not stand in strings, and a
  value is followed by nothing but blanks.

  The reader descends into a value with a budget that bounds
  the nesting. The budget of `Json.read?` grows with the text
  and is never exhausted.

  Key definitions include:
    * `Json.skipBlanks`
    * `Json.readUnits`
    * `Json.readNumeral`
    * `Json.readValue`
    * `Json.read?`
-/

namespace Statechart

namespace Json

------------------------------------------------------------
-- Blanks
------------------------------------------------------------

/- Is a character a blank of the format? -/
def isSpace (c : Char) : Bool :=
  c == ' ' || c == '\t' || c == '\n' || c == '\r'

/- Drop the blanks at the start of a text. -/
def skipBlanks : List Char → List Char
  | [] => []
  | c :: rest =>
      if isSpace c then
        skipBlanks rest
      else
        c :: rest

------------------------------------------------------------
-- Strings
------------------------------------------------------------

/- The value of a hexadecimal digit of either case. -/
def hexValue? (c : Char) : Option Nat :=
  if '0' ≤ c ∧ c ≤ '9' then
    some (c.toNat - '0'.toNat)
  else if 'a' ≤ c ∧ c ≤ 'f' then
    some (c.toNat - 'a'.toNat + 10)
  else if 'A' ≤ c ∧ c ≤ 'F' then
    some (c.toNat - 'A'.toNat + 10)
  else
    none

/- The code unit of four hexadecimal digits. -/
def hexUnit? (a b c d : Char) : Option Nat :=
  match hexValue? a, hexValue? b, hexValue? c,
    hexValue? d with
  | some w, some x, some y, some z =>
      some (((w * 16 + x) * 16 + y) * 16 + z)
  | _, _, _, _ => none

/- The code unit of an escape of one letter. -/
def letterUnit? (c : Char) : Option Nat :=
  if c = '"' ∨ c = '\\' ∨ c = '/' then
    some c.toNat
  else if c = 'b' then
    some 0x08
  else if c = 'f' then
    some 0x0C
  else if c = 'n' then
    some 0x0A
  else if c = 'r' then
    some 0x0D
  else if c = 't' then
    some 0x09
  else
    none

/-
  Read the code units of a string up to its closing
  quotation mark.
-/
def readUnits :
    List Char → Option (List Nat × List Char)
  | [] => none
  | '"' :: rest => some ([], rest)
  | '\\' :: 'u' :: a :: b :: c :: d :: rest =>
      match hexUnit? a b c d, readUnits rest with
      | some unit, some (units, after) =>
          some (unit :: units, after)
      | _, _ => none
  | '\\' :: c :: rest =>
      match letterUnit? c, readUnits rest with
      | some unit, some (units, after) =>
          some (unit :: units, after)
      | _, _ => none
  | c :: rest =>
      if c = '\\' ∨ c.toNat < 0x20 then
        none
      else
        match readUnits rest with
        | some (units, after) =>
            some (c.toNat :: units, after)
        | none => none

------------------------------------------------------------
-- Numbers
------------------------------------------------------------

/- Read the digits before the point. -/
def readWhole
    (text : List Char) : Option (List Char × List Char) :=
  match Text.spanDigits text with
  | ([], _) => none
  | (['0'], rest) => some (['0'], rest)
  | ('0' :: _, _) => none
  | (digits, rest) => some (digits, rest)

/- Read a fraction, which may be missing. -/
def readFraction
    (text : List Char) : Option (List Char × List Char) :=
  match text with
  | '.' :: rest =>
      match Text.spanDigits rest with
      | ([], _) => none
      | (digits, after) => some ('.' :: digits, after)
  | _ => some ([], text)

/- Split off a sign, which may be missing. -/
def spanSign : List Char → List Char × List Char
  | [] => ([], [])
  | c :: rest =>
      if c = '+' ∨ c = '-' then
        ([c], rest)
      else
        ([], c :: rest)

/- Read an exponent, which may be missing. -/
def readExponent
    (text : List Char) : Option (List Char × List Char) :=
  match text with
  | c :: rest =>
      if c = 'e' ∨ c = 'E' then
        match spanSign rest with
        | (sign, more) =>
            match Text.spanDigits more with
            | ([], _) => none
            | (digits, after) =>
                some (c :: sign ++ digits, after)
      else
        some ([], text)
  | [] => some ([], [])

/- Read a number after its sign. -/
def readUnsigned
    (negative : Bool)
    (text : List Char) : Option (Numeral × List Char) :=
  match readWhole text with
  | none => none
  | some (digits, afterWhole) =>
      match readFraction afterWhole with
      | none => none
      | some (fraction, afterFraction) =>
          match readExponent afterFraction with
          | none => none
          | some (exponent, rest) =>
              some (⟨negative, digits, fraction ++ exponent⟩,
                rest)

/- Read a number. -/
def readNumeral :
    List Char → Option (Numeral × List Char)
  | '-' :: rest => readUnsigned true rest
  | text => readUnsigned false text

------------------------------------------------------------
-- Values
------------------------------------------------------------

/- Read the rest of a name and the colon after it. -/
def readName
    (text : List Char) :
    Option (Option String × List Char) :=
  match skipBlanks text with
  | '"' :: inner =>
      match readUnits inner with
      | none => none
      | some (units, after) =>
          match skipBlanks after with
          | ':' :: rest => some (unitsText? units, rest)
          | _ => none
  | _ => none

mutual

/- Read a value, with any blanks before it. -/
def readValue :
    Nat → List Char → Option (Json × List Char)
  | 0, _ => none
  | budget + 1, text =>
      match skipBlanks text with
      | 'n' :: 'u' :: 'l' :: 'l' :: rest =>
          some (.null, rest)
      | 't' :: 'r' :: 'u' :: 'e' :: rest =>
          some (.bool true, rest)
      | 'f' :: 'a' :: 'l' :: 's' :: 'e' :: rest =>
          some (.bool false, rest)
      | '"' :: inner =>
          match readUnits inner with
          | none => none
          | some (units, rest) =>
              some (.string (unitsText? units), rest)
      | '[' :: inner =>
          match skipBlanks inner with
          | ']' :: rest => some (.list [], rest)
          | _ =>
              match readItems budget inner with
              | none => none
              | some (items, rest) =>
                  some (.list items, rest)
      | '\x7b' :: inner =>
          match skipBlanks inner with
          | '\x7d' :: rest => some (.object [], rest)
          | _ =>
              match readFields budget inner with
              | none => none
              | some (fields, rest) =>
                  some (.object fields, rest)
      | other =>
          match readNumeral other with
          | none => none
          | some (n, rest) => some (.number n, rest)

/- Read items up to the closing bracket. -/
def readItems :
    Nat → List Char → Option (List Json × List Char)
  | 0, _ => none
  | budget + 1, text =>
      match readValue budget text with
      | none => none
      | some (item, after) =>
          match skipBlanks after with
          | ']' :: rest => some ([item], rest)
          | ',' :: more =>
              match readItems budget more with
              | none => none
              | some (items, rest) =>
                  some (item :: items, rest)
          | _ => none

/- Read fields up to the closing brace. -/
def readFields :
    Nat → List Char →
      Option (List (Option String × Json) × List Char)
  | 0, _ => none
  | budget + 1, text =>
      match readName text with
      | none => none
      | some (name, afterName) =>
          match readValue budget afterName with
          | none => none
          | some (value, after) =>
              match skipBlanks after with
              | '\x7d' :: rest => some ([(name, value)], rest)
              | ',' :: more =>
                  match readFields budget more with
                  | none => none
                  | some (fields, rest) =>
                      some ((name, value) :: fields, rest)
              | _ => none

end

/- The value of a list of characters. -/
def ofChars? (text : List Char) : Option Json :=
  match readValue (2 * text.length + 2) text with
  | none => none
  | some (value, rest) =>
      if (skipBlanks rest).isEmpty then
        some value
      else
        none

/-
  The value of a text. This stands for the reader of a
  library for JSON. Assumed of that reader is that it takes
  the texts of the format and no others, that a string comes
  back with the characters that its escapes denote, and that
  items and fields come back in the order in which they
  stand.
-/
def read? (text : String) : Option Json :=
  ofChars? text.toList

end Json

end Statechart
