/-
  This file defines vocabularies: types whose values stand
  for labels. A host with a fixed set of labels declares a
  vocabulary for them and passes its values wherever a label
  is expected.

  Key definitions include:
    * `Vocabulary`
    * `Vocabulary.ofLabel?`
-/

namespace Statechart

/- A type that lists its values and gives each a label. -/
class Vocabulary (α : Type) where
  all : List α
  label : α → String

namespace Vocabulary

/- The first value with a given label, if there is one. -/
def ofLabel?
    {α : Type}
    [Vocabulary α]
    (label : String) : Option α :=
  (all : List α).find? fun v => Vocabulary.label v == label

end Vocabulary

end Statechart
