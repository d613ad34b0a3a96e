import Statechart.Showcase.CoinTable
import Statechart.Showcase.KioskDay
import Statechart.Showcase.Turnstile

/-
  This file lists the performances by name.

  Key definitions include:
    * `Showcase.performance?`
-/

namespace Statechart

namespace Showcase

/- The names of the performances. -/
def names : List String :=
  ["kiosk", "turnstile", "table"]

/- The performance with a given name. -/
def performance? (name : String) : Option Performance :=
  if name = "kiosk" then
    some KioskDay.performance
  else if name = "turnstile" then
    some Turnstile.performance
  else if name = "table" then
    some CoinTable.performance
  else
    none

end Showcase

end Statechart
