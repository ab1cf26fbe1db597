import RecordQuery.Aggregation.Aggregator

/-!
Pivot configurations: as callers write them, and as layouts that carry every label and format the
table needs.
-/

namespace RecordQuery

/-- A requested column; the bucket counts for dates only. -/
structure PivotColumn where
  field : String
  order : Option Direction
  format : Option String
  bucket : Option Bucket

structure PivotRow where
  field : String
  order : Option Direction
  showSubtotal : Option Bool

structure PivotValue where
  field : String
  aggregator : Aggregator
  format : Option String

structure PivotOptions where
  showRowGrandTotals : Option Bool
  showColGrandTotals : Option Bool
  showSubtotals : Option Bool

/-- A pivot as requested. -/
structure PivotConfig where
  columns : List PivotColumn
  rows : List PivotRow
  values : List PivotValue
  options : Option PivotOptions

/-- How a lookup is keyed and labelled. -/
structure LookupDisplay where
  document : String
  displayField : String
  /-- Field names in braces, to be replaced by their texts. -/
  pattern : String
  simpleFields : List String
  nestedFields : List String
  deriving DecidableEq

/-- A choice of a picklist. -/
structure PicklistOption where
  key : String
  label : String
  deriving DecidableEq

structure RowDimension where
  field : String
  label : String
  type : String
  level : Nat
  lookup : Option LookupDisplay
  order : Option Direction

structure ColumnDimension where
  field : String
  label : String
  type : String
  options : Option (List PicklistOption)
  lookup : Option LookupDisplay
  bucket : Option Bucket
  order : Option Direction

structure Measure where
  field : String
  aggregator : Aggregator
  label : String
  type : String
  format : Option String

/-- A pivot ready to be computed without a registry. -/
structure PivotLayout where
  rows : List RowDimension
  columns : List ColumnDimension
  values : List Measure
  options : Option PivotOptions
  /-- Label of missing dimension values. -/
  blank : Option String

namespace Shape

def optionalText (slot : Option Value) : Option (Option String) :=
  fill none (optional Value.asStr?) slot

def optionalFlag (slot : Option Value) : Option (Option Bool) :=
  fill none (optional Value.asBool?) slot

def optionalOrder (slot : Option Value) : Option (Option Direction) :=
  fill none (optional Direction.ofValue?) slot

def optionalBucket (slot : Option Value) : Option (Option Bucket) :=
  fill none (optional Bucket.ofValue?) slot

/-- A type left out is a text. -/
def typeName (slot : Option Value) : Option String := fill "text" Value.asStr? slot

def texts? : Value → Option (List String) := list? Value.asStr?

end Shape

namespace PivotColumn

def ofValue? (v : Value) : Option PivotColumn := do
  match ← Shape.slots? [["field"], ["order"], ["format"], ["aggregator"]] v with
  | [some field, order, format, bucket] =>
    return ⟨← field.asStr?, ← Shape.optionalOrder order, ← Shape.optionalText format,
      ← Shape.optionalBucket bucket⟩
  | _ => none

def toValue (c : PivotColumn) : Value :=
  .obj (Shape.present
    [("field", some (.str c.field)), ("order", c.order.map (·.toValue)),
      ("format", c.format.map .str), ("aggregator", c.bucket.map (·.toValue))])

end PivotColumn

namespace PivotRow

def ofValue? (v : Value) : Option PivotRow := do
  match ← Shape.slots? [["field"], ["order"], ["showSubtotal"]] v with
  | [some field, order, subtotal] =>
    return ⟨← field.asStr?, ← Shape.optionalOrder order, ← Shape.optionalFlag subtotal⟩
  | _ => none

def toValue (r : PivotRow) : Value :=
  .obj (Shape.present
    [("field", some (.str r.field)), ("order", r.order.map (·.toValue)),
      ("showSubtotal", r.showSubtotal.map .bool)])

end PivotRow

namespace PivotValue

def ofValue? (v : Value) : Option PivotValue := do
  match ← Shape.slots? [["field"], ["aggregator"], ["format"]] v with
  | [some field, aggregator, format] =>
    return ⟨← field.asStr?, ← Shape.fill .sum Aggregator.ofValue? aggregator,
      ← Shape.optionalText format⟩
  | _ => none

def toValue (v : PivotValue) : Value :=
  .obj (Shape.present
    [("field", some (.str v.field)), ("aggregator", some v.aggregator.toValue),
      ("format", v.format.map .str)])

end PivotValue

namespace PivotOptions

def ofValue? (v : Value) : Option PivotOptions := do
  match ← Shape.slots? [["showRowGrandTotals"], ["showColGrandTotals"], ["showSubtotals"]] v with
  | [rows, columns, subtotals] =>
    return ⟨← Shape.optionalFlag rows, ← Shape.optionalFlag columns,
      ← Shape.optionalFlag subtotals⟩
  | _ => none

def toValue (o : PivotOptions) : Value :=
  .obj (Shape.present
    [("showRowGrandTotals", o.showRowGrandTotals.map .bool),
      ("showColGrandTotals", o.showColGrandTotals.map .bool),
      ("showSubtotals", o.showSubtotals.map .bool)])

end PivotOptions

namespace PivotConfig

def empty : PivotConfig := ⟨[], [], [], none⟩

def ofValue? (v : Value) : Option PivotConfig := do
  match ← Shape.slots? [["columns"], ["rows"], ["values"], ["options"]] v with
  | [columns, rows, values, options] =>
    return ⟨← Shape.fill [] (Shape.list? PivotColumn.ofValue?) columns,
      ← Shape.fill [] (Shape.list? PivotRow.ofValue?) rows,
      ← Shape.fill [] (Shape.list? PivotValue.ofValue?) values,
      ← Shape.fill none (Shape.optional PivotOptions.ofValue?) options⟩
  | _ => none

def toValue (c : PivotConfig) : Value :=
  .obj (Shape.present
    [("columns", some (.arr (c.columns.map (·.toValue)))),
      ("rows", some (.arr (c.rows.map (·.toValue)))),
      ("values", some (.arr (c.values.map (·.toValue)))), ("options", c.options.map (·.toValue))])

end PivotConfig

namespace LookupDisplay

/-- Every entry has to be given. -/
def ofValue? (v : Value) : Option LookupDisplay := do
  match ← Shape.slots? [["document"], ["displayField"], ["formatPattern"], ["simpleFields"],
      ["nestedFields"]] v with
  | [some document, some field, some pattern, some simple, some nested] =>
    return ⟨← document.asStr?, ← field.asStr?, ← pattern.asStr?, ← Shape.texts? simple,
      ← Shape.texts? nested⟩
  | _ => none

def toValue (d : LookupDisplay) : Value :=
  .obj [("document", .str d.document), ("displayField", .str d.displayField),
    ("formatPattern", .str d.pattern), ("simpleFields", .arr (d.simpleFields.map .str)),
    ("nestedFields", .arr (d.nestedFields.map .str))]

end LookupDisplay

namespace PicklistOption

def ofValue? (v : Value) : Option PicklistOption := do
  match ← Shape.slots? [["key"], ["label"]] v with
  | [some key, some label] => return ⟨← key.asStr?, ← label.asStr?⟩
  | _ => none

def toValue (o : PicklistOption) : Value := .obj [("key", .str o.key), ("label", .str o.label)]

end PicklistOption

namespace RowDimension

def ofValue? (v : Value) : Option RowDimension := do
  match ← Shape.slots? [["field"], ["label"], ["type"], ["level"], ["lookup"], ["order"]] v with
  | [some field, label, type, level, lookup, order] =>
    return ⟨← field.asStr?, ← Shape.text label, ← Shape.typeName type,
      ← Shape.fill 0 Value.asNat? level,
      ← Shape.fill none (Shape.optional LookupDisplay.ofValue?) lookup,
      ← Shape.optionalOrder order⟩
  | _ => none

def toValue (d : RowDimension) : Value :=
  .obj (Shape.present
    [("field", some (.str d.field)), ("label", some (.str d.label)), ("type", some (.str d.type)),
      ("level", some (.nat d.level)), ("lookup", d.lookup.map (·.toValue)),
      ("order", d.order.map (·.toValue))])

end RowDimension

namespace ColumnDimension

def ofValue? (v : Value) : Option ColumnDimension := do
  match ← Shape.slots? [["field"], ["label"], ["type"], ["values"], ["lookup"], ["bucket"],
      ["order"]] v with
  | [some field, label, type, options, lookup, bucket, order] =>
    return ⟨← field.asStr?, ← Shape.text label, ← Shape.typeName type,
      ← Shape.fill none (Shape.optional (Shape.list? PicklistOption.ofValue?)) options,
      ← Shape.fill none (Shape.optional LookupDisplay.ofValue?) lookup,
      ← Shape.optionalBucket bucket, ← Shape.optionalOrder order⟩
  | _ => none

def toValue (d : ColumnDimension) : Value :=
  .obj (Shape.present
    [("field", some (.str d.field)), ("label", some (.str d.label)), ("type", some (.str d.type)),
      ("values", d.options.map fun os => .arr (os.map (·.toValue))),
      ("lookup", d.lookup.map (·.toValue)), ("bucket", d.bucket.map (·.toValue)),
      ("order", d.order.map (·.toValue))])

end ColumnDimension

namespace Measure

def ofValue? (v : Value) : Option Measure := do
  match ← Shape.slots? [["field"], ["aggregator"], ["label"], ["type"], ["format"]] v with
  | [some field, aggregator, label, type, format] =>
    return ⟨← field.asStr?, ← Shape.fill .sum Aggregator.ofValue? aggregator, ← Shape.text label,
      ← Shape.typeName type, ← Shape.optionalText format⟩
  | _ => none

def toValue (m : Measure) : Value :=
  .obj (Shape.present
    [("field", some (.str m.field)), ("aggregator", some m.aggregator.toValue),
      ("label", some (.str m.label)), ("type", some (.str m.type)), ("format", m.format.map .str)])

end Measure

namespace PivotLayout

def ofValue? (v : Value) : Option PivotLayout := do
  match ← Shape.slots? [["rows"], ["columns"], ["values"], ["options"], ["blankText"]] v with
  | [rows, columns, values, options, blank] =>
    return ⟨← Shape.fill [] (Shape.list? RowDimension.ofValue?) rows,
      ← Shape.fill [] (Shape.list? ColumnDimension.ofValue?) columns,
      ← Shape.fill [] (Shape.list? Measure.ofValue?) values,
      ← Shape.fill none (Shape.optional PivotOptions.ofValue?) options,
      ← Shape.optionalText blank⟩
  | _ => none

def toValue (p : PivotLayout) : Value :=
  .obj (Shape.present
    [("rows", some (.arr (p.rows.map (·.toValue)))),
      ("columns", if p.columns.isEmpty then none else some (.arr (p.columns.map (·.toValue)))),
      ("values", some (.arr (p.values.map (·.toValue)))), ("options", p.options.map (·.toValue)),
      ("blankText", p.blank.map .str)])

end PivotLayout

end RecordQuery
