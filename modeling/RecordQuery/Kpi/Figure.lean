import RecordQuery.Aggregation.Accumulator
import RecordQuery.Aggregation.Error
import RecordQuery.Aggregation.Reading
import RecordQuery.Kpi.Config

/-!
Key figures: one number over all records, to four places.
-/

namespace RecordQuery

structure KeyFigure where
  operation : Aggregator
  field : Option String
  readings : Accumulator

namespace KeyFigure

def start (config : KpiConfig) : Except SessionError KeyFigure :=
  if config.field = none ∧ config.operation ≠ .count then .error .figureFieldMissing
  else .ok ⟨config.operation, config.field, .empty⟩

def push (f : KeyFigure) (r : Record) : KeyFigure :=
  { f with readings := f.readings.push (f.field.bind fun path => Record.reading? r path) }

/-- Four places, a half away from zero. -/
def rounded (x : Float) : Float := (x * 10000).round / 10000

/-- A figure over no reading is zero; counting needs no reading. -/
def result (f : KeyFigure) : Float :=
  match f.operation with
  | .count => Binary64.ofInt f.readings.records
  | operation => if f.readings.numeric = 0 then 0 else rounded (f.readings.result operation)

def toValue (f : KeyFigure) : Value :=
  .obj [("result", Value.ofFloat f.result), ("count", .nat f.readings.records),
    ("validCount", .nat f.readings.numeric)]

end KeyFigure

end RecordQuery
