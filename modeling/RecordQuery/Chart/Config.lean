import RecordQuery.Aggregation.Aggregator

/-!
Chart configurations. An empty field counts as none.
-/

namespace RecordQuery

inductive ChartKind
  | bar
  | line
  | pie
  | scatter
  | histogram
  | timeSeries
  deriving DecidableEq, Repr, Inhabited

structure Axis where
  field : String
  label : Option String
  format : Option String

structure ChartConfig where
  kind : Option ChartKind
  xAxis : Option Axis
  yAxis : Option Axis
  categoryField : Option String
  categoryLabel : Option String
  aggregation : Option Aggregator
  title : Option String
  width : Option Nat
  height : Option Nat
  colors : Option (List String)
  showLegend : Option Bool
  showGrid : Option Bool

namespace ChartKind

def name : ChartKind → String
  | bar => "bar"
  | line => "line"
  | pie => "pie"
  | scatter => "scatter"
  | histogram => "histogram"
  | timeSeries => "timeSeries"

def all : List ChartKind := [bar, line, pie, scatter, histogram, timeSeries]

def ofValue? (v : Value) : Option ChartKind :=
  (Shape.tag? v).bind fun s => all.find? fun k => k.name = s

end ChartKind

namespace Axis

def ofValue? (v : Value) : Option Axis := do
  match ← Shape.slots? [["field"], ["label"], ["format"]] v with
  | [field, label, format] =>
    return ⟨← Shape.text field, ← Shape.fill none (Shape.optional Value.asStr?) label,
      ← Shape.fill none (Shape.optional Value.asStr?) format⟩
  | _ => none

def toValue (a : Axis) : Value :=
  .obj (Shape.present
    [("field", some (.str a.field)), ("label", a.label.map .str), ("format", a.format.map .str)])

end Axis

namespace ChartConfig

/-- A size in 32 bits. -/
def size? (v : Value) : Option Nat :=
  v.asNat?.bind fun n => if n < Word.bound32 then some n else none

def ofValue? (v : Value) : Option ChartConfig := do
  let text := Shape.fill none (Shape.optional Value.asStr?)
  let size := Shape.fill none (Shape.optional size?)
  let flag := Shape.fill none (Shape.optional Value.asBool?)
  let axis := Shape.fill none (Shape.optional Axis.ofValue?)
  match ← Shape.slots? [["type"], ["xAxis"], ["yAxis"], ["categoryField"], ["categoryFieldLabel"],
      ["aggregation"], ["title"], ["width"], ["height"], ["colors"], ["showLegend"],
      ["showGrid"]] v with
  | [kind, xAxis, yAxis, category, categoryLabel, aggregation, title, width, height, colors,
      legend, grid] =>
    return {
      kind := ← Shape.fill none (Shape.optional ChartKind.ofValue?) kind
      xAxis := ← axis xAxis
      yAxis := ← axis yAxis
      categoryField := ← text category
      categoryLabel := ← text categoryLabel
      aggregation := ← Shape.fill none (Shape.optional Aggregator.ofValue?) aggregation
      title := ← text title
      width := ← size width
      height := ← size height
      colors := ← Shape.fill none (Shape.optional (Shape.list? Value.asStr?)) colors
      showLegend := ← flag legend
      showGrid := ← flag grid }
  | _ => none

def toValue (c : ChartConfig) : Value :=
  .obj (Shape.present
    [("type", c.kind.map fun k => .str k.name), ("xAxis", c.xAxis.map (·.toValue)),
      ("yAxis", c.yAxis.map (·.toValue)), ("categoryField", c.categoryField.map .str),
      ("categoryFieldLabel", c.categoryLabel.map .str),
      ("aggregation", c.aggregation.map (·.toValue)), ("title", c.title.map .str),
      ("width", c.width.map .nat), ("height", c.height.map .nat),
      ("colors", c.colors.map fun cs => .arr (cs.map .str)),
      ("showLegend", c.showLegend.map .bool), ("showGrid", c.showGrid.map .bool)])

def fieldOf (axis : Option Axis) : Option String :=
  (axis.map (·.field)).bind fun f => if f = "" then none else some f

def xField (c : ChartConfig) : Option String := fieldOf c.xAxis

def yField (c : ChartConfig) : Option String := fieldOf c.yAxis

def category (c : ChartConfig) : Option String :=
  c.categoryField.bind fun f => if f = "" then none else some f

/-- The configured fields: both axes and the category. -/
def fields (c : ChartConfig) : List String :=
  c.xField.toList ++ c.yField.toList ++ c.category.toList

end ChartConfig

end RecordQuery
