import RecordQuery.Aggregation.Request
import RecordQuery.Chart.Config
import RecordQuery.Kpi.Config
import RecordQuery.Number.Signed
import RecordQuery.Pivot.Config

/-!
Query parameters of the read endpoints. An unreadable limit is no limit; every other unreadable
parameter is refused.
-/

namespace RecordQuery

inductive ParamFault
  | malformed
  | notWhole (fault : Signed.Fault)
  | notFlag (text : String)
  | required
  deriving DecidableEq, Repr

structure ParamError where
  name : String
  fault : ParamFault
  deriving DecidableEq, Repr

namespace ParamError

def reason : ParamFault → String
  | .malformed => "malformed JSON"
  | .notWhole fault => fault.message
  | .notFlag text => "expected a boolean, got " ++ text
  | .required => "is required"

def message (e : ParamError) : String :=
  "Invalid query parameter " ++ e.name ++ ": " ++ reason e.fault

def code : String := "INVALID_PARAMETER"

def status : Nat := 400

end ParamError

/-- Parameters that all read endpoints share. -/
structure QueryParams where
  filter : Option Filter
  sort : Option Value
  fields : Option String
  limit : Option Int
  start : Option Int
  withDetails : Bool
  datesToText : Bool
  displayName : Option String
  displayType : Option String
  language : Option String

namespace QueryParams

/-- A parameter that is not empty. -/
def text? (params : Fields String) (name : String) : Option String :=
  (Fields.get? params name).filter (· ≠ "")

/-- A parameter without the blanks around it, if anything is left. -/
def trimmed? (params : Fields String) (name : String) : Option String :=
  ((Fields.get? params name).map Text.trim).filter (· ≠ "")

/-- A parameter that spells a value. -/
def spelled {α : Type} (params : Fields String) (name : String) (read : Value → Option α) :
    Except ParamError (Option α) :=
  match trimmed? params name with
  | none => .ok none
  | some text =>
    match (Value.readVerbatim? text).bind read with
    | some a => .ok (some a)
    | none => .error ⟨name, .malformed⟩

/-- A whole number, or the whole part of any other. -/
def limit? (params : Fields String) : Option Int :=
  (Fields.get? params "limit").bind fun text =>
    let cs := Text.trimChars text.toList
    match Signed.read cs with
    | .ok n => some n
    | .error _ =>
      ((Decimal.readFloat? cs).filter Binary64.isFinite).map Signed.ofFloat

def whole (params : Fields String) (name : String) : Except ParamError (Option Int) :=
  match trimmed? params name with
  | none => .ok none
  | some text =>
    match Signed.read text.toList with
    | .ok n => .ok (some n)
    | .error fault => .error ⟨name, .notWhole fault⟩

def flag (params : Fields String) (name : String) (default : Bool) : Except ParamError Bool :=
  match trimmed? params name with
  | none => .ok default
  | some "true" | some "1" => .ok true
  | some "false" | some "0" => .ok false
  | some text => .error ⟨name, .notFlag text⟩

/-- Reads the shared parameters in order; the first unreadable one is told. -/
def read (params : Fields String) : Except ParamError QueryParams := do
  return {
    filter := ← spelled params "filter" Filter.ofValue?
    sort := ← spelled params "sort" fun v => some v.collapse
    fields := text? params "fields"
    limit := limit? params
    start := ← whole params "start"
    withDetails := ← flag params "withDetailFields" false
    datesToText := ← flag params "transformDatesToString" true
    displayName := text? params "displayName"
    displayType := text? params "displayType"
    language := text? params "lang" }

def findRequest (p : QueryParams) (document : String) (token : Option String) : FindRequest :=
  { FindRequest.new document with
    token
    filter := p.filter
    sort := p.sort
    fields := p.fields
    limit := p.limit
    start := p.start
    withDetails := p.withDetails
    datesToText := p.datesToText
    displayName := p.displayName
    displayType := p.displayType }

/-- Labels are in the default language unless another one is asked for. -/
def aggregationRequest (p : QueryParams) (document : String) (token : Option String) :
    AggregationRequest :=
  AggregationRequest.ofFind (p.findRequest document token)
    (p.language.getD (AggregationRequest.new document).language)

/-- A missing pivot is the empty one. -/
def pivotConfig (params : Fields String) : Except ParamError PivotConfig :=
  (spelled params "pivotConfig" PivotConfig.ofValue?).map fun c => c.getD PivotConfig.empty

def chartConfig (params : Fields String) : Except ParamError (Option ChartConfig) :=
  spelled params "graphConfig" ChartConfig.ofValue?

def kpiConfig (params : Fields String) : Except ParamError KpiConfig := do
  match ← spelled params "kpiConfig" KpiConfig.ofValue? with
  | some c => return c
  | none => .error ⟨"kpiConfig", .required⟩

end QueryParams

end RecordQuery
