import RecordQuery.Aggregation.Lookup
import RecordQuery.Calendar.Bucket

/-!
What a pivot reads from one record: a row key for each row dimension, a segment for each column
dimension, and a number for each measure.
-/

namespace RecordQuery

/-- The place of a record in one row dimension. -/
structure RowStep where
  key : String
  label : String
  deriving DecidableEq, Repr

namespace RowStep

/-- A missing value has the empty key; an empty label is shown as blank. -/
def ofValue (blank : String) (lookup : Option LookupDisplay) : Option Value → RowStep
  | none => ⟨"", blank⟩
  | some v =>
    let (key, label) := match lookup with
      | some d => if v.isRecord && !v.isDate then d.keyAndLabel v else (v.caption, v.caption)
      | none => (v.caption, v.caption)
    ⟨key, if label = "" then blank else label⟩

end RowStep

namespace ColumnDimension

/-- The period of a date, the label of a choice, or the label of the value. -/
def segment (blank : String) (d : ColumnDimension) (r : Record) : String :=
  match Record.pick? r (Path.ofText d.field) with
  | none => blank
  | some v =>
    let period := match d.bucket, v.instant? with
      | some bucket, some t => some (bucket.label t)
      | _, _ => none
    let choice := (d.options.getD []).find? fun option => option.key = v.caption
    match period, choice with
    | some label, _ => label
    | none, some option => option.label
    | none, none => (RowStep.ofValue blank d.lookup (some v)).label

end ColumnDimension

namespace ColumnKey

/-- The key of the only column of a pivot without column dimensions. -/
def whole : String := "__default__"

def separator : Char := '|'

/-- A backslash stands before each separator and each backslash of a segment. -/
def escape : List Char → List Char
  | [] => []
  | c :: rest => if c = '\\' ∨ c = separator then '\\' :: c :: escape rest else c :: escape rest

def escapeText (segment : String) : String := String.ofList (escape segment.toList)

/-- Escaped segments between separators. -/
def ofSegments (segments : List String) : String :=
  if segments.isEmpty then whole
  else (String.singleton separator).intercalate (segments.map escapeText)

end ColumnKey

namespace PivotLayout

def blankText (p : PivotLayout) : String := p.blank.getD "(blank)"

def readings (p : PivotLayout) (r : Record) : List (Option Float) :=
  p.values.map fun m => Record.reading? r m.field

def rowPath (p : PivotLayout) (r : Record) : List RowStep :=
  p.rows.map fun d => RowStep.ofValue p.blankText d.lookup (Record.pick? r (Path.ofText d.field))

def columnSegments (p : PivotLayout) (r : Record) : List String :=
  p.columns.map fun d => d.segment p.blankText r

def columnKey (p : PivotLayout) (r : Record) : String := ColumnKey.ofSegments (p.columnSegments r)

end PivotLayout

end RecordQuery
