import RecordQuery.Aggregation.Aggregator
import RecordQuery.Chart.Config

/-!
Why a pivot, a chart or a key figure cannot be computed.
-/

namespace RecordQuery

/-- Faults of charts, each with a code of its own. -/
inductive ChartFault
  | configMissing
  | typeMissing
  | axisXMissing (kind : ChartKind)
  | axisYMissing (kind : ChartKind)
  | categoryMissing
  | fieldNotFound
  /-- The chart was accepted but could not be computed. -/
  | processing (details : String)

namespace ChartFault

def code : ChartFault → String
  | configMissing => "GRAPH_CONFIG_MISSING"
  | typeMissing => "GRAPH_CONFIG_TYPE_MISSING"
  | axisXMissing _ => "GRAPH_CONFIG_AXIS_X_MISSING"
  | axisYMissing _ => "GRAPH_CONFIG_AXIS_Y_MISSING"
  | categoryMissing => "GRAPH_CONFIG_CATEGORY_MISSING"
  | fieldNotFound => "GRAPH_FIELD_NOT_FOUND"
  | processing _ => "GRAPH_PROCESSING_ERROR"

def message : ChartFault → String
  | configMissing => "Graph configuration not found. Please configure the graph before viewing it."
  | typeMissing => "Graph type not specified. Please select a valid graph type."
  | axisXMissing kind =>
    "X axis not configured. Please configure the X axis for " ++ kind.name ++ " charts."
  | axisYMissing kind =>
    "Y axis not configured. Please configure the Y axis for " ++ kind.name ++ " charts."
  | categoryMissing =>
    "Category field not configured. Please configure the category field for pie charts."
  | fieldNotFound =>
    "The selected field for this chart is no longer available. Please edit the chart and choose a "
      ++ "different field."
  | processing _ =>
    "An error occurred while processing the graph. Please try again or contact support."

def details : ChartFault → Option String
  | processing details => some details
  | _ => none

end ChartFault

inductive AggregationError
  | pivotRowsMissing
  | pivotValuesMissing
  | invalidConfig (kind : AggregationKind) (reason : String)
  | kpiFieldMissing (operation : Aggregator)
  | chart (fault : ChartFault)

namespace AggregationError

/-- Only a chart that fails while it is computed is the server's fault. -/
def status : AggregationError → Nat
  | chart (.processing _) => 500
  | _ => 400

def code : AggregationError → String
  | pivotRowsMissing | pivotValuesMissing | invalidConfig .pivot _ => "PIVOT_CONFIG_INVALID"
  | kpiFieldMissing _ | invalidConfig .kpi _ => "KPI_CONFIG_INVALID"
  | invalidConfig .graph _ => "GRAPH_CONFIG_INVALID"
  | chart fault => fault.code

def message : AggregationError → String
  | pivotRowsMissing => "Rows are required for pivot table"
  | pivotValuesMissing => "Values are required for pivot table"
  | invalidConfig kind reason => "Invalid " ++ kind.name ++ " config: " ++ reason
  | kpiFieldMissing operation => "KPI aggregation '" ++ operation.name ++ "' requires a field"
  | chart fault => fault.message

def details : AggregationError → Option String
  | chart fault => fault.details
  | _ => none

end AggregationError

/-- Why an aggregation does not start or does not finish, told in the codes of the wire protocol. -/
inductive SessionError
  | requestMissing
  | malformedRequest
  | versionMismatch
  | unknownMethod (name : String)
  | configMissing
  | malformedConfig (kind : AggregationKind)
  | rowsMissing
  | valuesMissing
  | chartKindMissing
  | categoryMissing
  | axesMissing (kind : ChartKind)
  | samplesMissing
  /-- Aggregating anything but the number of records needs a measure. -/
  | measureMissing
  | figureFieldMissing
  | malformedRecord
  deriving DecidableEq, Repr

namespace SessionError

def code : SessionError → Int
  | malformedRequest | malformedRecord => -32700
  | unknownMethod _ => -32601
  | _ => -32602

def kind : SessionError → String
  | malformedRequest | malformedRecord => "Parse"
  | unknownMethod _ => "MethodNotFound"
  | _ => "InvalidParams"

def message : SessionError → String
  | requestMissing => "init request not received"
  | malformedRequest => "Parse error: invalid init request: malformed JSON"
  | versionMismatch => "jsonrpc must be \"2.0\""
  | unknownMethod name => "Method not found: " ++ name
  | configMissing => "config is required"
  | malformedConfig kind => "Invalid " ++ kind.name ++ " config: malformed config"
  | rowsMissing => "Rows are required for pivot table"
  | valuesMissing => "Values are required for pivot table"
  | chartKindMissing => "Graph type is required"
  | categoryMissing => "categoryField is required for pie chart"
  | axesMissing kind => "xAxis.field and yAxis.field are required for " ++ kind.name ++ " chart"
  | samplesMissing => "yAxis.field is required for histogram"
  | measureMissing => "yAxis.field is required when using aggregation"
  | figureFieldMissing => "field is required for aggregation"
  | malformedRecord => "Parse error: invalid record: malformed JSON"

end SessionError

end RecordQuery
