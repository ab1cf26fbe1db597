import RecordQuery.Aggregation.Request
import RecordQuery.Chart.Fields

/-!
Charts over a document. Faults of the configuration are found before anything is read; what fails
later is told as one error with its cause as details.
-/

namespace RecordQuery

structure ChartResult where
  svg : String
  /-- The number of matching records, if it could be counted. -/
  total : Option Nat

namespace ChartResult

/-- The drawing of a read without records. -/
def empty : ChartResult := ⟨"<svg></svg>", some 0⟩

end ChartResult

namespace AggregationEngine

def chart (a : AggregationEngine) (request : AggregationRequest) (config : Option ChartConfig) :
    Except QueryError ChartResult := do
  let (config, _) ← (ChartConfig.validate config).mapError QueryError.aggregation
  let document ← a.documentOf request.document
  (config.checkFields document).mapError .aggregation
  let labelled := config.labelled a.engine.registry document request.language
  let plan := FieldPlan.ofPaths document labelled.fields
  let find := { request.findRequest plan.fieldList a.cap with lookups := plan.lookups }
  match ← a.openRecords find with
  | none => return ChartResult.empty
  | some opened =>
    let svg ← ((a.backend ⟨.graph, labelled.toValue⟩ opened.records).bind
      AggregationOutput.asDrawing).mapError fun e =>
        QueryError.aggregation (.chart (.processing e.message))
    return ⟨svg, opened.total.bind (·.toOption)⟩

end AggregationEngine

end RecordQuery
