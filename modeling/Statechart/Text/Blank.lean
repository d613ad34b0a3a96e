/-
  This file defines blank characters: the characters with
  the Unicode property `White_Space`. The property is stable;
  its members are listed here as ranges of code points.

  Key definitions include:
    * `blankRanges`
    * `isBlank`
-/

namespace Statechart

namespace Text

/- The ranges of blank code points, both ends included. -/
def blankRanges : List (Nat × Nat) :=
  [ (0x0009, 0x000D),
    (0x0020, 0x0020),
    (0x0085, 0x0085),
    (0x00A0, 0x00A0),
    (0x1680, 0x1680),
    (0x2000, 0x200A),
    (0x2028, 0x2029),
    (0x202F, 0x202F),
    (0x205F, 0x205F),
    (0x3000, 0x3000) ]

/- Does a code point lie in one of the ranges? -/
def inRanges
    (ranges : List (Nat × Nat))
    (code : Nat) : Bool :=
  ranges.any fun r => r.1 ≤ code && code ≤ r.2

/- Is a character blank? -/
def isBlank (c : Char) : Bool :=
  inRanges blankRanges c.toNat

end Text

end Statechart
