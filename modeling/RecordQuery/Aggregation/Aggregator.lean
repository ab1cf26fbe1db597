import RecordQuery.Calendar.Bucket
import RecordQuery.Value.Order
import RecordQuery.Value.Shape

/-!
Words that configurations of pivots, charts and key figures share.
-/

namespace RecordQuery

/-- How readings of a measure become one number. -/
inductive Aggregator
  | count
  | sum
  | average
  | min
  | max
  deriving DecidableEq, Repr, Inhabited

namespace Aggregator

def name : Aggregator → String
  | count => "count"
  | sum => "sum"
  | average => "avg"
  | min => "min"
  | max => "max"

def all : List Aggregator := [count, sum, average, min, max]

def ofValue? (v : Value) : Option Aggregator :=
  (Shape.tag? v).bind fun s => all.find? fun a => a.name = s

def toValue (a : Aggregator) : Value := .str a.name

end Aggregator

namespace Bucket

def name : Bucket → String
  | day => "D"
  | week => "W"
  | month => "M"
  | quarter => "Q"
  | year => "Y"

def all : List Bucket := [day, week, month, quarter, year]

def ofValue? (v : Value) : Option Bucket :=
  (Shape.tag? v).bind fun s => all.find? fun b => b.name = s

def toValue (b : Bucket) : Value := .str b.name

end Bucket

namespace Direction

def name : Direction → String
  | ascending => "ASC"
  | descending => "DESC"

def ofValue? (v : Value) : Option Direction :=
  (Shape.tag? v).bind fun s =>
    if s = "ASC" then some ascending else if s = "DESC" then some descending else none

def toValue (d : Direction) : Value := .str d.name

end Direction

/-- What is computed over a stream of records. -/
inductive AggregationKind
  | pivot
  | graph
  | kpi
  deriving DecidableEq, Repr, Inhabited

namespace AggregationKind

def name : AggregationKind → String
  | pivot => "pivot"
  | graph => "graph"
  | kpi => "kpi"

end AggregationKind

end RecordQuery
