import RecordQuery.Aggregation.Request
import RecordQuery.Pivot.Layout

/-!
Pivots over a document. The configuration is checked before anything is read, and a table is
returned only if it covers the whole read.
-/

namespace RecordQuery

/-- More records match than are aggregated. -/
structure PivotLimit where
  limit : Nat
  total : Nat
  deriving DecidableEq, Repr

structure PivotResult where
  layout : PivotLayout
  data : Value
  grandTotals : Value
  columnHeaders : Value
  /-- The number of matching records. -/
  total : Nat
  limited : Option PivotLimit

namespace PivotLimit

def of (limit total : Nat) : Option PivotLimit :=
  if limit < total then some ⟨limit, total⟩ else none

def toValue (l : PivotLimit) : Value :=
  .obj [("limited", .bool true), ("limit", .nat l.limit), ("total", .nat l.total)]

end PivotLimit

namespace PivotResult

def emptyTotals : Value := .obj [("cells", .obj []), ("totals", .obj [])]

/-- The result of a read without records. -/
def empty (layout : PivotLayout) : PivotResult :=
  ⟨layout, .arr [], emptyTotals, .arr [], 0, none⟩

/-- The parts of a computed table; a missing part is empty. -/
def ofTable (layout : PivotLayout) (table : Value) (total limit : Nat) : PivotResult where
  layout
  data := (table.get? "data").getD (.arr [])
  grandTotals := (table.get? "grandTotals").getD emptyTotals
  columnHeaders := (table.get? "columnHeaders").getD (.arr [])
  total
  limited := PivotLimit.of limit total

def toValue (r : PivotResult) : Value :=
  .obj (Shape.present
    [("success", some (.bool true)),
      ("metadata", some (.obj [("rows", .arr (r.layout.rows.map (·.toValue))),
        ("columns", .arr (r.layout.columns.map (·.toValue))),
        ("values", .arr (r.layout.values.map (·.toValue)))])),
      ("data", some r.data), ("grandTotals", some r.grandTotals),
      ("columnHeaders", some r.columnHeaders), ("total", some (.nat r.total)),
      ("limitInfo", r.limited.map (·.toValue))])

end PivotResult

namespace AggregationEngine

def pivot (a : AggregationEngine) (request : AggregationRequest) (config : PivotConfig) :
    Except QueryError PivotResult := do
  config.validate.mapError .aggregation
  let document ← a.documentOf request.document
  let layout := config.layout a.engine.registry document request.language
  let plan := FieldPlan.ofPaths document layout.paths
  let find := { request.findRequest plan.fieldList a.cap with lookups := plan.lookups }
  match ← a.openRecords find with
  | none => return PivotResult.empty layout
  | some opened =>
    let output ← (a.backend ⟨.pivot, layout.toValue⟩ opened.records).mapError .bridge
    let table ← output.asTable.mapError QueryError.bridge
    let total ← awaitTotal opened.total
    return PivotResult.ofTable layout table total a.cap

end AggregationEngine

end RecordQuery
