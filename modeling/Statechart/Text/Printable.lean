import Statechart.Text.Blank
import Statechart.Text.Combining

/-
  This file defines how texts are shown for inspection: in
  quotation marks, with escapes for characters that cannot be
  told apart from others when printed.

  Characters without a shape of their own are controls,
  formats, separators other than the space, surrogates,
  private code points, code points that are set aside for no
  character, and combining characters.

  Key definitions include:
    * `shapelessRanges`
    * `isShapeless`
    * `inspected`
-/

namespace Statechart

namespace Text

/-
  The ranges of code points without a shape of their own,
  combining characters apart, both ends included.
-/
def shapelessRanges : List (Nat × Nat) :=
  [ (0x0000, 0x001F),
    (0x007F, 0x00A0),
    (0x00AD, 0x00AD),
    (0x0600, 0x0605),
    (0x061C, 0x061C),
    (0x06DD, 0x06DD),
    (0x070F, 0x070F),
    (0x0890, 0x0891),
    (0x08E2, 0x08E2),
    (0x1680, 0x1680),
    (0x180E, 0x180E),
    (0x2000, 0x200F),
    (0x2028, 0x202F),
    (0x205F, 0x206F),
    (0x3000, 0x3000),
    (0xD800, 0xF8FF),
    (0xFDD0, 0xFDEF),
    (0xFEFF, 0xFEFF),
    (0xFFF0, 0xFFFB),
    (0xFFFE, 0xFFFF),
    (0x110BD, 0x110BD),
    (0x110CD, 0x110CD),
    (0x13430, 0x13438),
    (0x1BCA0, 0x1BCA3),
    (0x1D173, 0x1D17A),
    (0x1FFFE, 0x1FFFF),
    (0x2FFFE, 0x2FFFF),
    (0x3FFFE, 0x10FFFF) ]

/- Does a character have no shape of its own? -/
def isShapeless (c : Char) : Bool :=
  inRanges shapelessRanges c.toNat || isCombining c

/- The code point of a character in an escape. -/
def codeEscape (c : Char) : List Char :=
  ['\\', 'u', '\x7b'] ++ Nat.toDigits 16 c.toNat ++
    ['\x7d']

/- Show a character. -/
def inspectedChar (c : Char) : List Char :=
  if c = '"' then
    ['\\', '"']
  else if c = '\\' then
    ['\\', '\\']
  else if c = '\n' then
    ['\\', 'n']
  else if c = '\r' then
    ['\\', 'r']
  else if c = '\t' then
    ['\\', 't']
  else if c = '\x00' then
    ['\\', '0']
  else if isShapeless c then
    codeEscape c
  else
    [c]

/- Show a text in quotation marks. -/
def inspected (text : String) : String :=
  "\"" ++ String.ofList (text.toList.flatMap inspectedChar) ++
    "\""

end Text

end Statechart
