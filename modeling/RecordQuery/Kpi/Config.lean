import RecordQuery.Aggregation.Aggregator
import RecordQuery.Text.Blank

/-!
Key figures: one operation over one field. Counting needs no field.
-/

namespace RecordQuery

structure KpiConfig where
  operation : Aggregator
  fieldText : Option String

namespace KpiConfig

/-- The field without blanks around it, if anything is left. -/
def field (c : KpiConfig) : Option String :=
  (c.fieldText.map Text.trim).bind fun f => if f = "" then none else some f

def ofValue? (v : Value) : Option KpiConfig := do
  match ← Shape.slots? [["operation"], ["field"]] v with
  | [some operation, field] =>
    return ⟨← Aggregator.ofValue? operation,
      ← Shape.fill none (Shape.optional Value.asStr?) field⟩
  | _ => none

/-- The configuration with its field as it was written. -/
def toValue (c : KpiConfig) : Value :=
  .obj (Shape.present
    [("operation", some c.operation.toValue), ("field", c.fieldText.map .str)])

end KpiConfig

end RecordQuery
