import RecordQuery.Chart.Render
import RecordQuery.Kpi.Figure
import RecordQuery.Pivot.Table

/-!
One running aggregation: it starts from a configuration, takes records one at a time, and ends in a
table or a drawing.
-/

namespace RecordQuery

/-- What is aggregated, and how. -/
structure AggregationInit where
  kind : AggregationKind
  config : Value

inductive AggregationOutput
  | table (v : Value)
  | svg (markup : String)
  deriving DecidableEq

inductive Session
  | pivot (table : PivotTable)
  | graph (chart : Chart)
  | kpi (figure : KeyFigure)

namespace Session

/-- A configuration is a record that reads as its kind's. -/
def start (init : AggregationInit) : Except SessionError Session :=
  if !init.config.isRecord then .error .configMissing
  else
    match init.kind with
    | .pivot =>
      match PivotLayout.ofValue? init.config with
      | some layout => (PivotTable.start layout).map pivot
      | none => .error (.malformedConfig .pivot)
    | .graph =>
      match ChartConfig.ofValue? init.config with
      | some config => (Chart.start config).map graph
      | none => .error (.malformedConfig .graph)
    | .kpi =>
      match KpiConfig.ofValue? init.config with
      | some config => (KeyFigure.start config).map kpi
      | none => .error (.malformedConfig .kpi)

def push (s : Session) (r : Record) : Session :=
  match s with
  | pivot table => pivot (table.push r)
  | graph chart => graph (chart.push r)
  | kpi figure => kpi (figure.push r)

def pushAll (s : Session) (records : List Record) : Session := records.foldl push s

/-- Records taken so far. -/
def rows : Session → Nat
  | pivot table => table.records
  | graph chart => chart.records
  | kpi figure => figure.readings.records

def finish : Session → AggregationOutput
  | pivot table => .table table.toValue
  | graph chart => .svg chart.render
  | kpi figure => .table figure.toValue

end Session

end RecordQuery
