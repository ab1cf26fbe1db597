import RecordQuery.Chart.Drawing
import RecordQuery.Chart.Series

/-!
A chart as a drawing: its labels and title, and the parts that its kind and series ask for.
-/

namespace RecordQuery

namespace Chart

/-- Colours of charts without colours of their own. -/
def palette : List String :=
  ["#1f77b4", "#ff7f0e", "#2ca02c", "#d62728", "#9467bd", "#8c564b", "#e377c2", "#7f7f7f",
    "#bcbd22", "#17becf"]

/-- The label of an axis, else its field. -/
def axisLabel? (axis : Option Axis) : Option String :=
  axis.bind fun a =>
    match a.label with
    | some label => if label ≠ "" then some label else if a.field ≠ "" then some a.field else none
    | none => if a.field ≠ "" then some a.field else none

def labels (c : Chart) : AxisLabels :=
  let category := (c.config.categoryLabel.or c.config.categoryField).getD ""
  { category
    x := (axisLabel? c.config.xAxis).getD category
    y := (axisLabel? c.config.yAxis).getD (match c.series with
      | .grouped _ _ .count _ => "Count"
      | _ => "") }

def defaultTitle (labels : AxisLabels) : ChartKind → String
  | .bar => labels.y ++ " by " ++ labels.x
  | .line => labels.y ++ " over " ++ labels.x
  | .pie => "Distribution by " ++ labels.category
  | .scatter => labels.y ++ " vs " ++ labels.x
  | .histogram => "Distribution of " ++ labels.y
  | .timeSeries => labels.y ++ " over time"

def title (c : Chart) : String :=
  match c.config.title with
  | some title => if Text.trim title = "" then defaultTitle c.labels c.kind else title
  | none => defaultTitle c.labels c.kind

/-- A chart is 800 by 600 unless told otherwise, and no smaller than 100. -/
def sheet (c : Chart) : Sheet where
  width := Float.ofNat (max (c.config.width.getD 800) 100)
  height := Float.ofNat (max (c.config.height.getD 600) 100)
  colors := match c.config.colors with
    | some (color :: rest) => color :: rest
    | _ => palette
  grid := c.config.showGrid.getD true
  legend := c.config.showLegend.getD true
  labels := c.labels

/-- Instants as milliseconds, in order. -/
def timed (points : List (Value × Float)) : List (Float × Float) :=
  (points.filterMap fun (v, y) => v.instant?.map fun t => (Binary64.ofInt t.toMillis, y)).mergeSort
    fun p q => Binary64.orderKey p.1 ≤ Binary64.orderKey q.1

/-- Points by category, in the order of their keys. -/
def categories (points : List (Value × Float)) : List (String × Float) :=
  (points.mergeSort fun p q => Value.compare (some p.1) (some q.1) != .gt).map fun (v, y) =>
    (v.caption, y)

def parts (c : Chart) : List Svg :=
  let s := c.sheet
  match c.series with
  | .grouped _ _ aggregator groups =>
    match c.kind with
    | .pie => s.pie (groups.sorted aggregator)
    | .line => s.categoryLine (groups.sorted aggregator)
    | .timeSeries =>
      s.points .time
        (timed (groups.entries.map fun g => (g.sortKey, g.readings.result aggregator)))
    | _ => s.bars (groups.sorted aggregator)
  | .points _ _ found =>
    match c.kind with
    | .scatter =>
      s.points .number (found.toList.filterMap fun (v, y) => v.reading?.map fun x => (x, y))
    | .timeSeries => s.points .time (timed found.toList)
    | .line => s.categoryLine (categories found.toList)
    | _ => s.bars (categories found.toList)
  | .samples _ found => s.histogram found.toList

def toSvg (c : Chart) : Svg :=
  let s := c.sheet
  let width := sizeText s.width
  let height := sizeText s.height
  .element "svg" [("xmlns", "http://www.w3.org/2000/svg"), ("width", width), ("height", height),
      ("viewBox", "0 0 " ++ width ++ " " ++ height), ("font-family", "sans-serif")]
    ([.leaf "rect" [("width", width), ("height", height), ("fill", "white")],
      .label "text" [("x", sizeText (s.width / 2)), ("y", "30"), ("text-anchor", "middle"),
        ("font-size", "16")] c.title] ++ c.parts)

def render (c : Chart) : String := c.toSvg.markup

end Chart

end RecordQuery
