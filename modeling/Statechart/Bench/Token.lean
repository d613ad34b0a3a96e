import Statechart.Vocabulary

/-
  This file defines the tokens of a bench: a small vocabulary
  whose labels differ in case, are empty, or leave ASCII.

  Key definitions include:
    * `Token`
-/

namespace Statechart

/- The tokens, in the order in which they are listed. -/
inductive Token where
  | push
  | coin
  | insertCard
  | blank
  | upper
  | accent
deriving DecidableEq, Repr

namespace Token

/- The label that a token stands for. -/
def label : Token → String
  | push => "push"
  | coin => "coin"
  | insertCard => "insert_card"
  | blank => ""
  | upper => "PUSH"
  | accent => "caf\u00e9"

instance : Vocabulary Token where
  all := [push, coin, insertCard, blank, upper, accent]
  label := label

end Token

end Statechart
