/-
  This file defines performances: what a program prints, and
  why it stopped early if it did.

  Key definitions include:
    * `Printed`
    * `Performance`
-/

namespace Statechart

/- A piece of output, with or without a line end after it. -/
inductive Printed where
  | line (text : String)
  | text (text : String)
deriving DecidableEq, Repr

namespace Printed

/- The printed text without the line end. -/
def content : Printed → String
  | line s => s
  | text s => s

/- The characters that go to the output. -/
def output : Printed → String
  | line s => s ++ "\n"
  | text s => s

end Printed

/- The output of a program and the reason for its failure. -/
structure Performance where
  printed : List Printed
  failure : Option String
deriving DecidableEq, Repr

namespace Performance

/- A performance that fails before anything is printed. -/
def failed (reason : String) : Performance where
  printed := []
  failure := some reason

/- A performance that prints and does not fail. -/
def ofPrinted (printed : List Printed) : Performance where
  printed := printed
  failure := none

end Performance

end Statechart
