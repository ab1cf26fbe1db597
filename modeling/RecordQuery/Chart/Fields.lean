import RecordQuery.Aggregation.Error
import RecordQuery.Aggregation.FieldPlan

/-!
Checking a requested chart and filling in its labels and title from the registry.
-/

namespace RecordQuery

namespace ChartConfig

def needsX : ChartKind → Bool
  | .bar | .line | .scatter | .timeSeries => true
  | .pie | .histogram => false

/-- Bars need a measure only to aggregate it, lines unless they count. -/
def needsY (c : ChartConfig) : ChartKind → Bool
  | .scatter | .histogram | .timeSeries => true
  | .bar => c.aggregation.any (· ≠ .count)
  | .line => c.aggregation ≠ some .count
  | .pie => false

/-- The kind of a chart that names every field its kind needs. -/
def validate (config : Option ChartConfig) : Except AggregationError (ChartConfig × ChartKind) :=
  match config with
  | none => .error (.chart .configMissing)
  | some c =>
    match c.kind with
    | none => .error (.chart .typeMissing)
    | some kind =>
      if kind = .pie ∧ c.category = none then .error (.chart .categoryMissing)
      else if needsX kind ∧ c.xField = none then .error (.chart (.axisXMissing kind))
      else if c.needsY kind ∧ c.yField = none then .error (.chart (.axisYMissing kind))
      else .ok (c, kind)

/-- System fields begin with an underscore and need no declaration. -/
def isKnown (document : DocumentType) (path : String) : Bool :=
  (Path.root path).startsWith "_" || (document.field? (Path.root path)).isSome

/-- Every field of the chart exists. -/
def checkFields (c : ChartConfig) (document : DocumentType) : Except AggregationError Unit :=
  if c.fields.all (isKnown document) then .ok () else .error (.chart .fieldNotFound)

/-- A label that says no more than the field's name is none. -/
def needsLabel (label : Option String) (field : String) : Bool :=
  match label with
  | none => true
  | some s => s = "" || s = field || s.startsWith "_"

/-- The label of a field of a document, or its path. -/
def labelOf (registry : Registry) (document : DocumentType) (language path : String) : String :=
  match document.resolve? registry path language with
  | some r => r.label
  | none => path

def labelAxis (label : String → String) (axis : Axis) : Axis :=
  if axis.field ≠ "" ∧ needsLabel axis.label axis.field then
    { axis with label := some (label axis.field) }
  else axis

/-- What the title says the records are grouped by. -/
def grouping (c : ChartConfig) : Option String :=
  match c.kind with
  | some .pie => c.categoryLabel
  | some .histogram => c.yAxis.bind (·.label)
  | _ => (c.xAxis.bind (·.label)).or c.categoryLabel

/-- Labels of both axes and of the category, where they are needed. -/
def withLabels (c : ChartConfig) (label : String → String) : ChartConfig :=
  { c with
    xAxis := c.xAxis.map (labelAxis label)
    yAxis := c.yAxis.map (labelAxis label)
    categoryLabel := match c.category with
      | some field => if needsLabel c.categoryLabel field then some (label field)
        else c.categoryLabel
      | none => c.categoryLabel }

/-- A title of the document's label and the grouping, where there is none. -/
def withTitle (c : ChartConfig) (document : DocumentType) (language : String) : ChartConfig :=
  if c.title.all fun title => Text.trim title = "" then
    match c.grouping with
    | some grouping =>
      let name := (document.label.text? language).getD document.name
      let preposition := if language = "en" then " by " else " por "
      { c with title := some (name ++ preposition ++ grouping) }
    | none => c
  else c

/-- The chart with all labels it needs. -/
def labelled (c : ChartConfig) (registry : Registry) (document : DocumentType) (language : String) :
    ChartConfig :=
  (c.withLabels (labelOf registry document language)).withTitle document language

end ChartConfig

end RecordQuery
