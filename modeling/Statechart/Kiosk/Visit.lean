import Statechart.Kiosk.Session

/-
  This file defines visits: what customers do at the kiosk,
  one call after the other.

  Key definitions include:
    * `Session.Call`
    * `Session.call`
    * `Session.callAll`
-/

namespace Statechart

namespace Session

/- What a customer can do. -/
inductive Call where
  | submit (event : Event)
  | insertCard (name : String)
  | inputPin (pin : String)
deriving DecidableEq, Repr

/- Do what a customer does. -/
def call
    (s : Session) :
    Call → Turn
  | .submit event => s.submit event
  | .insertCard name => s.insertCard name
  | .inputPin pin => s.inputPin pin

/- The session after a visit. -/
def callAll
    (s : Session)
    (calls : List Call) : Session :=
  calls.foldl (fun s c => (s.call c).session) s

end Session

end Statechart
