import RecordQuery.Aggregation.Accumulator
import RecordQuery.Aggregation.Error
import RecordQuery.Pivot.Dimension

/-!
Pivot tables. Records are folded one at a time into a tree of rows; every row keeps accumulators of
its own, so a row aggregates exactly the records below it.
-/

namespace RecordQuery

/-- Accumulators of every measure, over all columns and in each column that occurs. -/
structure Cells where
  /-- In ascending order of the column keys. -/
  columns : Fields (List Accumulator)
  totals : List Accumulator

namespace Cells

def empty (width : Nat) : Cells := ⟨[], List.replicate width .empty⟩

def pushAll (accumulators : List Accumulator) (readings : List (Option Float)) :
    List Accumulator :=
  List.zipWith Accumulator.push accumulators readings

def push (column : String) (readings : List (Option Float)) (cells : Cells) : Cells where
  columns := Fields.adjust column
    (fun before => pushAll (before.getD (List.replicate readings.length .empty)) readings)
    cells.columns
  totals := pushAll cells.totals readings

/-- Results by measured field; of two measures of one field the later counts. -/
def resultsValue (values : List Measure) (accumulators : List Accumulator) : Value :=
  .obj (Fields.collapse (List.zipWith
    (fun (m : Measure) (a : Accumulator) => (m.field, Value.ofFloat (a.result m.aggregator)))
    values accumulators))

def columnsValue (values : List Measure) (cells : Cells) : Value :=
  .obj (cells.columns.map fun (column, accumulators) =>
    (column, resultsValue values accumulators))

def totalsValue (values : List Measure) (cells : Cells) : Value :=
  resultsValue values cells.totals

end Cells

/-- A row and the rows below it, in ascending order of their keys. -/
structure RowNode where
  /-- The label of the first record with the row's key. -/
  label : String
  level : Nat
  cells : Cells
  children : List (String × RowNode)

/-- Adds a record to every row on its path. -/
def RowNode.pushPath (column : String) (readings : List (Option Float)) :
    Nat → List RowStep → Fields RowNode → Fields RowNode
  | _, [], rows => rows
  | level, step :: rest, rows =>
    Fields.adjust step.key
      (fun before =>
        let row := before.getD ⟨step.label, level, Cells.empty readings.length, []⟩
        { row with
          cells := row.cells.push column readings
          children := pushPath column readings (level + 1) rest row.children })
      rows

/-- The column segments that occur behind another, in ascending order. -/
structure HeaderNode where
  children : List (String × HeaderNode)

def HeaderNode.pushPath : List String → Fields HeaderNode → Fields HeaderNode
  | [], headers => headers
  | segment :: rest, headers =>
    Fields.adjust segment
      (fun before => ⟨pushPath rest (match before with
        | some header => header.children
        | none => [])⟩)
      headers

namespace Direction

/-- Ascending entries in this direction. -/
def arrange {α : Type} : Direction → List α → List α
  | ascending, entries => entries
  | descending, entries => entries.reverse

end Direction

mutual
def RowNode.toValue (values : List Measure) (orders : List Direction) (key : String) :
    RowNode → Value
  | ⟨label, level, cells, children⟩ =>
    .obj ([("key", .str key), ("label", .str label), ("level", .nat level),
        ("cells", cells.columnsValue values), ("totals", cells.totalsValue values)]
      ++ if children.isEmpty then [] else
        [("children", .arr ((orders.headD .ascending).arrange
          (RowNode.toValues values orders.tail children)))])

/-- Rows in ascending order; `orders` are those of the levels below. -/
def RowNode.toValues (values : List Measure) (orders : List Direction) :
    List (String × RowNode) → List Value
  | [] => []
  | (key, row) :: rest => row.toValue values orders key :: RowNode.toValues values orders rest
end

mutual
def HeaderNode.toValue (orders : List Direction) (level : Nat) (key segment : String) :
    HeaderNode → Value
  | ⟨children⟩ =>
    .obj ([("key", .str key), ("value", .str segment), ("label", .str segment),
        ("level", .nat level)]
      ++ if children.isEmpty then [] else
        [("expanded", .bool true), ("children", .arr ((orders.headD .ascending).arrange
          (HeaderNode.toValues orders.tail (level + 1) key children)))])

/-- Headers in ascending order. A key continues the one above it, unless that one is empty. -/
def HeaderNode.toValues (orders : List Direction) (level : Nat) (above : String) :
    List (String × HeaderNode) → List Value
  | [] => []
  | (segment, header) :: rest =>
    let own := ColumnKey.escapeText segment
    let key := if above = "" then own else above ++ String.singleton ColumnKey.separator ++ own
    header.toValue orders level key segment :: HeaderNode.toValues orders level above rest
end

structure PivotTable where
  layout : PivotLayout
  rows : Fields RowNode
  grand : Cells
  headers : Fields HeaderNode
  records : Nat

namespace PivotTable

/-- A table has rows and measures. -/
def start (layout : PivotLayout) : Except SessionError PivotTable :=
  if layout.rows.isEmpty then .error .rowsMissing
  else if layout.values.isEmpty then .error .valuesMissing
  else .ok ⟨layout, [], Cells.empty layout.values.length, [], 0⟩

def push (t : PivotTable) (r : Record) : PivotTable :=
  let column := t.layout.columnKey r
  let readings := t.layout.readings r
  { t with
    rows := RowNode.pushPath column readings 0 (t.layout.rowPath r) t.rows
    grand := t.grand.push column readings
    headers := HeaderNode.pushPath (t.layout.columnSegments r) t.headers
    records := t.records + 1 }

def rowOrders (t : PivotTable) : List Direction :=
  t.layout.rows.map fun d => d.order.getD .ascending

def columnOrders (t : PivotTable) : List Direction :=
  t.layout.columns.map fun d => d.order.getD .ascending

def rowsValue (t : PivotTable) : Value :=
  .arr ((t.rowOrders.headD .ascending).arrange
    (RowNode.toValues t.layout.values t.rowOrders.tail t.rows))

def grandValue (t : PivotTable) : Value :=
  .obj [("cells", t.grand.columnsValue t.layout.values),
    ("totals", t.grand.totalsValue t.layout.values)]

def headersValue (t : PivotTable) : Value :=
  .arr ((t.columnOrders.headD .ascending).arrange
    (HeaderNode.toValues t.columnOrders.tail 0 "" t.headers))

def toValue (t : PivotTable) : Value :=
  .obj [("data", t.rowsValue), ("grandTotals", t.grandValue), ("columnHeaders", t.headersValue)]

end PivotTable

end RecordQuery
