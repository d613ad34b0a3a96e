import Statechart.Kiosk.Visit
import Statechart.Proofs.Machine.Fleet
import Statechart.Proofs.Rule.Chunks
import Statechart.Proofs.Rule.Reading

/-
  This file states that a session can be opened at the kiosk
  whatever cards the kiosk knows. The rules of the kiosk are
  read without fault, and the chart that they make up is
  closed and has all screens.

  Key definitions include:
    * `Kiosk.ruleList`
    * `Kiosk.chart`

  Key theorems include:
    * `Kiosk.parse?_rules`
    * `Session.open?_eq`
-/

namespace Statechart

namespace Kiosk

------------------------------------------------------------
-- The Rules of the Kiosk
------------------------------------------------------------

/- What the lines of the kiosk say. -/
def ruleList : List Rule :=
  [ ⟨"idle", "waiting", "system_ready"⟩,
    ⟨"waiting", "waiting", "cancel_eject"⟩,
    ⟨"waiting", "wait_for_pin", "insert_card"⟩,
    ⟨"wait_for_pin", "checking", "input_pin"⟩,
    ⟨"wait_for_pin", "waiting", "cancel_eject"⟩,
    ⟨"checking", "pending", "preapprove"⟩,
    ⟨"checking", "rejected", "insufficient_funds"⟩,
    ⟨"rejected", "waiting", "cancel_eject"⟩,
    ⟨"pending", "checking", "add_ticket"⟩,
    ⟨"pending", "pending", "remove_ticket"⟩,
    ⟨"pending", "purchased", "confirm_purchase"⟩,
    ⟨"pending", "waiting", "cancel_eject"⟩,
    ⟨"purchased", "waiting", "print_spooled"⟩ ]

theorem endsStatement_ruleLines :
    ∀ line ∈ ruleLines, EndsStatement line.toList := by
  decide +kernel

theorem ofChars?_ruleLines :
    (ruleLines.flatMap fun line =>
        (statementChars line.toList).map Rule.ofChars?) =
      ruleList.map some := by
  decide +kernel

/- The text of the kiosk holds these rules. -/
theorem parse?_rules :
    (statements rules).map Rule.parse? =
      ruleList.map some := by
  have hLines :
      statements rules = ruleLines.flatMap statements := by
    apply statements_intercalate
    intro line hMember rest
    have hEnds := endsStatement_ruleLines line hMember
    exact hEnds.statementChars_append_newline _
  rw [hLines, List.map_flatMap, ← ofChars?_ruleLines]
  simp [statements, Rule.parse?, Function.comp_def]

/- The chart of the kiosk, without hooks. -/
def plainChart : Chart Event Operation :=
  Chart.empty.applyAll ruleList

/- The chart of the kiosk with all hooks. -/
def chart : Chart Event Operation :=
  plainChart.editAll wiring

theorem validate_plainChart :
    plainChart.validate = .ok () := by
  have hNone : plainChart.firstDangling?.isNone = true := by
    decide +kernel
  unfold Chart.validate
  rw [Option.isNone_iff_eq_none.mp hNone]

theorem missingScreen?_plainChart :
    Session.missingScreen? plainChart = none := by
  decide +kernel

theorem initial_plainChart :
    plainChart.initial = some "idle" := by
  decide +kernel

theorem ofRules_rules :
    Chart.ofRules rules = .ok plainChart :=
  Chart.ofRules_eq_ok parse?_rules

end Kiosk

namespace Session

theorem loadChart_eq_ok
    {c : Chart Event Kiosk.Operation}
    (hRules : Chart.ofRules Kiosk.rules = .ok c)
    (hValid : c.validate = .ok ())
    (hScreens : missingScreen? c = none) :
    loadChart = .ok c := by
  unfold loadChart
  rw [hRules]
  simp only [checkChart, hValid, hScreens]

theorem open?_eq_ok
    {c : Chart Event Kiosk.Operation}
    {m : Machine}
    (hLoaded : loadChart = .ok c)
    (hBound : Machine.bind .standard c = .ok m)
    (k : Kiosk) :
    open? k = .ok ⟨m, c.editAll Kiosk.wiring, k⟩ := by
  unfold open?
  rw [hLoaded]
  simp only [start, hBound]

/- A session opens in the idle state, with all hooks. -/
theorem open?_eq
    (k : Kiosk) :
    open? k =
      .ok ⟨.start .standard Screen.idle.label,
        Kiosk.chart, k⟩ := by
  have hLoaded : loadChart = .ok Kiosk.plainChart :=
    loadChart_eq_ok Kiosk.ofRules_rules
      Kiosk.validate_plainChart
      Kiosk.missingScreen?_plainChart
  have hWell : Kiosk.plainChart.WellFormed :=
    Chart.Built.empty.wellFormed.applyAll _
  have hClosed : Kiosk.plainChart.Closed :=
    Kiosk.plainChart.validate_eq_ok_iff.mp
      Kiosk.validate_plainChart
  have hBound :
      Machine.bind .standard Kiosk.plainChart =
        .ok (.start .standard "idle") :=
    hWell.bind_eq_ok_iff.mpr
      ⟨hClosed, "idle", Kiosk.initial_plainChart, rfl⟩
  exact open?_eq_ok hLoaded hBound k

end Session

end Statechart
