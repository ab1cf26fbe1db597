import RecordQuery.Aggregation.Aggregator

/-!
Running aggregates of one measure. Every record counts; the other results look only at the records
with a reading.
-/

namespace RecordQuery

structure Accumulator where
  records : Nat
  /-- Records with a reading. -/
  numeric : Nat
  sum : Float
  least : Option Float
  greatest : Option Float

namespace Accumulator

def empty : Accumulator := ⟨0, 0, 0, none, none⟩

/-- Adds a record and its reading, if it has one. -/
def push (a : Accumulator) (reading : Option Float) : Accumulator :=
  match reading with
  | none => { a with records := a.records + 1 }
  | some x => {
      records := a.records + 1
      numeric := a.numeric + 1
      sum := a.sum + x
      least := some (match a.least with
        | some low => Binary64.lesser low x
        | none => x)
      greatest := some (match a.greatest with
        | some high => Binary64.greater high x
        | none => x) }

/-- A result over no reading is zero. -/
def result (a : Accumulator) : Aggregator → Float
  | .count => Binary64.ofInt a.records
  | .sum => a.sum
  | .average => if a.numeric = 0 then 0 else a.sum / Binary64.ofInt a.numeric
  | .min => a.least.getD 0
  | .max => a.greatest.getD 0

def ofReadings (readings : List (Option Float)) : Accumulator := readings.foldl push empty

end Accumulator

end RecordQuery
