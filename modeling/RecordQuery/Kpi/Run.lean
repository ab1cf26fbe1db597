import RecordQuery.Aggregation.FieldPlan
import RecordQuery.Aggregation.Request

/-!
Key figures over a document. Counting reads no more than one record; every other operation folds the
one field it is about, as it is stored.
-/

namespace RecordQuery

structure KpiResult where
  value : Float
  count : Nat
  /-- Records with a reading; counting does not tell it. -/
  validCount : Option Nat

namespace KpiResult

/-- The result of a read without records. -/
def empty : KpiResult := ⟨0, 0, some 0⟩

/-- The parts of a computed figure; a missing number is zero. -/
def ofTable (table : Value) : KpiResult where
  value := ((table.get? "result").bind Value.asFloat?).getD 0
  count := ((table.get? "count").bind Value.asNat?).getD 0
  validCount := (table.get? "validCount").bind Value.asNat?

def toValue (r : KpiResult) : Value :=
  .obj (Shape.present
    [("success", some (.bool true)), ("value", some (Value.ofFloat r.value)),
      ("count", some (.nat r.count)), ("validCount", r.validCount.map .nat)])

end KpiResult

namespace KpiConfig

/-- Every operation but counting needs a field. -/
def validate (c : KpiConfig) : Except AggregationError Unit :=
  if c.operation ≠ .count ∧ c.field = none then .error (.kpiFieldMissing c.operation) else .ok ()

/-- The configuration of an operation on a field. -/
def sessionValue (operation : Aggregator) (field : String) : Value :=
  .obj [("operation", operation.toValue), ("field", .str field)]

end KpiConfig

namespace AggregationEngine

/-- The number of all matching records. -/
def kpiCount (a : AggregationEngine) (request : AggregationRequest) :
    Except QueryError KpiResult := do
  let found ← a.engine.find { request.findRequest "_id" 1 with start := some 0 }
  let total ← awaitTotal found.total
  return ⟨Binary64.ofInt total, total, none⟩

/-- Folds one field of all records. -/
def kpiFold (a : AggregationEngine) (request : AggregationRequest) (operation : Aggregator)
    (field : String) : Except QueryError KpiResult := do
  let document ← a.documentOf request.document
  let plan := FieldPlan.ofPaths document [field]
  let find :=
    { request.findRequest plan.fieldList a.cap with withTotal := false, datesToText := false }
  match ← a.openRecords find with
  | none => return KpiResult.empty
  | some opened =>
    let output ← (a.backend ⟨.kpi, KpiConfig.sessionValue operation field⟩
      opened.records).mapError .bridge
    let table ← output.asTable.mapError QueryError.bridge
    return KpiResult.ofTable table

def kpi (a : AggregationEngine) (request : AggregationRequest) (config : KpiConfig) :
    Except QueryError KpiResult :=
  match config.operation, config.field with
  | .count, _ => a.kpiCount request
  | operation, some field => a.kpiFold request operation field
  | operation, none => .error (.aggregation (.kpiFieldMissing operation))

end AggregationEngine

end RecordQuery
