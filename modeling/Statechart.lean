import Statechart.Bench.LooseStates
import Statechart.Bench.Machines
import Statechart.Bench.Token
import Statechart.Dot.Saved
import Statechart.Journal.Saved
import Statechart.LabelMap.Lemmas
import Statechart.Main
import Statechart.Proofs.Journal.Saved
import Statechart.Proofs.Chart.Built
import Statechart.Proofs.Chart.Closed
import Statechart.Proofs.Machine.Conduct
import Statechart.Proofs.Machine.Fleet
import Statechart.Proofs.Journal.Newest
import Statechart.Proofs.Journal.Eviction
import Statechart.Proofs.Machine.Discipline
import Statechart.Proofs.Machine.Trail
import Statechart.Proofs.Machine.Safety
import Statechart.Proofs.Machine.Query
import Statechart.Proofs.Rule.Layout
import Statechart.Proofs.Rule.Statement
import Statechart.Proofs.Rule.Grammar
import Statechart.Proofs.Machine.Logging
import Statechart.Proofs.Chart.Edges
import Statechart.Proofs.Chart.Outline
import Statechart.Proofs.Chart.Workshop
import Statechart.Proofs.Chart.Revision
import Statechart.Proofs.Chart.Lockstep
import Statechart.Proofs.Rule.Reading
import Statechart.Proofs.Rule.Effect
import Statechart.Proofs.Rule.Chunks
import Statechart.Proofs.Rule.NormalForm
import Statechart.Proofs.Rule.Writing
import Statechart.Proofs.Rule.RoundTrip
import Statechart.Proofs.Dot.Document
import Statechart.Proofs.Dot.Drawing
import Statechart.Proofs.Dot.Marker
import Statechart.Proofs.Chart.Grid
import Statechart.Proofs.Chart.PrintedGrid
import Statechart.Proofs.Machine.Itinerary
import Statechart.Proofs.Chart.Assembly
import Statechart.Proofs.Machine.Turns
import Statechart.Proofs.Machine.Observers
import Statechart.Proofs.Kiosk.Quiescence
import Statechart.Proofs.Kiosk.Money
import Statechart.Proofs.Kiosk.CardCheck
import Statechart.Proofs.Machine.Binding
