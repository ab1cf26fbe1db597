import RecordQuery.Aggregation.Error
import RecordQuery.Aggregation.FieldPlan

/-!
From a requested pivot to its layout: labels, types, choices and displays come from the registry, so
the table is computed without it.
-/

namespace RecordQuery

namespace PivotConfig

/-- A pivot has rows and values. -/
def validate (c : PivotConfig) : Except AggregationError Unit :=
  if c.rows.isEmpty then .error .pivotRowsMissing
  else if c.values.isEmpty then .error .pivotValuesMissing
  else .ok ()

/-- Label of missing values in a language. -/
def blankText (language : String) : String :=
  if language = "pt_BR" then "(vazio)" else "(blank)"

/-- The label of a path, or the path itself if its root is unknown. -/
def labelOf (path : String) (resolved : Option ResolvedPath) : String :=
  match resolved with
  | some r => r.label
  | none => path

def typeOf (default : String) (resolved : Option ResolvedPath) : String :=
  match resolved with
  | some r => r.type
  | none => default

def displayOf (resolved : Option ResolvedPath) : Option LookupDisplay :=
  resolved.bind fun r => LookupDisplay.ofField? r.field

/-- The choices of a picklist in a language; one without a label is labelled by its key. -/
def choicesOf (language : String) (resolved : Option ResolvedPath) : Option (List PicklistOption) :=
  resolved.bind fun r =>
    if r.field.options.isEmpty then none
    else some (r.field.options.map fun (key, labels) => ⟨key, (labels.text? language).getD key⟩)

/-- The layout of a pivot over a document. Only dates are put into periods, and amounts are shown as
a currency unless a format is given. -/
def layout (c : PivotConfig) (registry : Registry) (document : DocumentType) (language : String) :
    PivotLayout :=
  let resolve (path : String) := document.resolve? registry path language
  { rows := c.rows.zipIdx.map fun (row, level) =>
      let resolved := resolve row.field
      { field := row.field
        label := labelOf row.field resolved
        type := typeOf "text" resolved
        level
        lookup := displayOf resolved
        order := row.order }
    columns := c.columns.map fun column =>
      let resolved := resolve column.field
      let type := typeOf "text" resolved
      { field := column.field
        label := labelOf column.field resolved
        type
        options := choicesOf language resolved
        lookup := displayOf resolved
        bucket := if type = "date" ∨ type = "dateTime" then column.bucket else none
        order := column.order }
    values := c.values.map fun value =>
      let resolved := resolve value.field
      let type := typeOf "number" resolved
      { field := value.field
        aggregator := value.aggregator
        label := labelOf value.field resolved
        type
        format := value.format.or
          (if type = "money" ∨ type = "currency" then some "currency" else none) }
    options := c.options
    blank := some (blankText language) }

end PivotConfig

namespace PivotLayout

/-- The paths of all dimensions and measures. -/
def paths (p : PivotLayout) : List String :=
  p.rows.map (·.field) ++ p.columns.map (·.field) ++ p.values.map (·.field)

end PivotLayout

end RecordQuery
