import RecordQuery.Aggregation.Accumulator
import RecordQuery.Aggregation.Error
import RecordQuery.Aggregation.Reading
import RecordQuery.Chart.Config
import RecordQuery.Value.Order

/-!
What a chart keeps of its records: groups by caption, points, or samples of one field. Groups are
found again through the positions of their labels.
-/

namespace RecordQuery

/-- The records whose key has one caption. -/
structure Group where
  label : String
  /-- The key of the first record, which the groups are ordered by. -/
  sortKey : Value
  readings : Accumulator

namespace Group

def push (reading : Option Float) (g : Group) : Group :=
  { g with readings := g.readings.push reading }

end Group

/-- The groups in the order of their first records. -/
structure Groups where
  entries : List Group
  /-- Where the group of a label stands among them. -/
  positions : Fields Nat

namespace Groups

def empty : Groups := ⟨[], []⟩

/-- The position of a label's group, which is opened with the key if there is none yet. -/
def enter (key : Value) (label : String) (groups : Groups) : Nat × Groups :=
  match Fields.get? groups.positions label with
  | some position => (position, groups)
  | none =>
    let position := groups.entries.length
    (position, ⟨groups.entries ++ [⟨label, key, .empty⟩],
      Fields.insert groups.positions label position⟩)

def push (key : Value) (label : String) (reading : Option Float) (groups : Groups) : Groups :=
  let (position, entered) := groups.enter key label
  { entered with entries := entered.entries.modify position (Group.push reading) }

/-- Labels and results in the order of the keys; equal keys keep their order. -/
def sorted (groups : Groups) (aggregator : Aggregator) : List (String × Float) :=
  (groups.entries.mergeSort fun a b =>
    Value.compare (some a.sortKey) (some b.sortKey) != .gt).map fun group =>
      (group.label, group.readings.result aggregator)

end Groups

/-- What is read from each record, with what has been read so far. -/
inductive Series
  | grouped (keyField : String) (valueField : Option String) (aggregator : Aggregator)
      (groups : Groups)
  | points (xField yField : String) (found : Array (Value × Float))
  | samples (field : String) (found : Array Float)

namespace Series

/-- Label of records without a caption. -/
def blank : String := "(blank)"

def groupLabel (key : Value) : String := if key.caption = "" then blank else key.caption

/-- What a record is grouped by; one without a value counts as null. -/
def groupKey (keyField : String) (r : Record) : Value :=
  (Record.pick? r (Path.ofText keyField)).getD .null

/-- What a record adds to its group, if anything is measured. -/
def groupReading (valueField : Option String) (r : Record) : Option Float :=
  valueField.bind fun path => Record.reading? r path

/-- Points and samples need a number; groups take every record. -/
def push (r : Record) : Series → Series
  | grouped keyField valueField aggregator groups =>
    let key := groupKey keyField r
    grouped keyField valueField aggregator
      (groups.push key (groupLabel key) (groupReading valueField r))
  | points xField yField found =>
    match Record.reading? r yField with
    | some y => points xField yField
        (found.push ((Record.pick? r (Path.ofText xField)).getD .null, y))
    | none => points xField yField found
  | samples field found =>
    match Record.reading? r field with
    | some x => samples field (found.push x)
    | none => samples field found

/-- Groups without records; any result but the number of records needs a measure. -/
def group (keyField : String) (aggregator : Aggregator) (valueField : Option String) :
    Except SessionError Series :=
  if aggregator ≠ .count ∧ valueField = none then .error .measureMissing
  else .ok (.grouped keyField valueField aggregator .empty)

/-- The field, or the error that tells it is missing. -/
def required (field : Option String) (e : SessionError) : Except SessionError String :=
  match field with
  | some f => .ok f
  | none => .error e

/-- The key of charts with axes: the x axis, else the category. -/
def axisKey (config : ChartConfig) (kind : ChartKind) : Except SessionError String :=
  required (config.xField.or config.category) (.axesMissing kind)

/-- What a chart reads. Pies count unless told otherwise, and so do bars without a measure. -/
def start (config : ChartConfig) (kind : ChartKind) : Except SessionError Series :=
  match kind with
  | .pie => do
    let category ← required config.category .categoryMissing
    group category (config.aggregation.getD .count) config.yField
  | .histogram => do
    let field ← required config.yField .samplesMissing
    return .samples field #[]
  | kind =>
    match config.aggregation with
    | some aggregator => do
      let key ← axisKey config kind
      group key aggregator config.yField
    | none =>
      if kind = .bar ∧ config.yField = none then do
        let key ← axisKey config kind
        group key .count none
      else do
        let x ← axisKey config kind
        let y ← required config.yField (.axesMissing kind)
        return .points x y #[]

end Series

/-- A chart and the records it has taken. -/
structure Chart where
  config : ChartConfig
  kind : ChartKind
  series : Series
  records : Nat

namespace Chart

def start (config : ChartConfig) : Except SessionError Chart :=
  match config.kind with
  | none => .error .chartKindMissing
  | some kind => do
    let series ← Series.start config kind
    return ⟨config, kind, series, 0⟩

def push (c : Chart) (r : Record) : Chart :=
  { c with series := c.series.push r, records := c.records + 1 }

end Chart

end RecordQuery
