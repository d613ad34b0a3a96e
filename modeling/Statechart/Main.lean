import Statechart.Showcase.Programme

/-
  This file is the command line: it gives the performance
  that is named by the only argument.
-/

open Statechart

/- Print a performance and tell whether it failed. -/
def give (p : Performance) : IO UInt32 := do
  for piece in p.printed do
    IO.print piece.output
  match p.failure with
  | none => return 0
  | some reason =>
      IO.eprintln ("Error: " ++ reason)
      return 1

/- Say which performances there are. -/
def usage : IO UInt32 := do
  IO.eprintln
    ("usage: one of " ++
      String.intercalate ", " Showcase.names)
  return 2

def main (args : List String) : IO UInt32 :=
  match args.map Showcase.performance? with
  | [some p] => give p
  | _ => usage
