import RecordQuery.Chart.Run
import RecordQuery.Http.Credentials
import RecordQuery.Http.Form
import RecordQuery.Http.Params
import RecordQuery.Kpi.Run
import RecordQuery.Pivot.Run

/-!
The read endpoints. Every response, whatever its status, tells whether the origin of the request may
read it.
-/

namespace RecordQuery

/-- Why a request is answered with an error. -/
inductive RequestError
  | param (e : ParamError)
  | query (e : QueryError)

namespace RequestError

def status : RequestError → Nat
  | param _ => ParamError.status
  | query e => e.status

def code : RequestError → String
  | param _ => ParamError.code
  | query e => e.code

def message : RequestError → String
  | param e => e.message
  | query e => e.message

def details : RequestError → Option String
  | param _ => none
  | query e => e.details

def toValue (e : RequestError) : Value :=
  .obj [("success", .bool false),
    ("errors", .arr [.obj (Shape.present
      [("message", some (.str e.message)), ("code", some (.str e.code)),
        ("details", e.details.map .str)])])]

def response (e : RequestError) : HttpResponse := .text e.status .json e.toValue.text

end RequestError

/-- What a path leads to, with the name of the document as it was sent. -/
inductive Endpoint
  | health
  | find (document : String)
  | pivot (document : String)
  | chart (document : String)
  | kpi (document : String)
  deriving DecidableEq, Repr

namespace Endpoint

def ofPath? (path : String) : Option Endpoint :=
  match Text.split '/' path with
  | ["", "health"] => some health
  | ["", "rest", "stream", document, "findStream"] => some (find document)
  | ["", "rest", "data", document, "pivot"] => some (pivot document)
  | ["", "rest", "data", document, "graph"] => some (chart document)
  | ["", "rest", "data", document, "kpi"] => some (kpi document)
  | _ => none

end Endpoint

namespace RecordStream

/-- The records before the end or the failure, one a line. -/
def lines (s : RecordStream) : String := String.join (s.records.map Record.line)

/-- A failure after the first byte can only break the response off. -/
def response (s : RecordStream) : HttpResponse :=
  { HttpResponse.text 200 .records s.lines with complete := s.failure.isNone }

end RecordStream

structure Service where
  aggregation : AggregationEngine
  /-- Origins whose pages may read responses; any may if none is listed. -/
  origins : List String

namespace Service

def version : String := "0.1.0"

def healthReport : Value := .obj [("status", .str "ok"), ("version", .str version)]

/-- What the origin of a request is told. Listed origins that no header can hold do not count. -/
def allowedOrigin (origins : List String) (headers : Headers) : Option String :=
  if origins.isEmpty then some "*"
  else (headers.first? "origin").filter fun o =>
    (origins.filter Headers.isReadable).contains o

/-- A request as its endpoint sees it. -/
structure Call where
  document : String
  params : Fields String
  token : Option String

def find (s : Service) (call : Call) : Except RequestError HttpResponse := do
  let params ← (QueryParams.read call.params).mapError .param
  let found ← (s.aggregation.engine.find (params.findRequest call.document call.token)).mapError
    .query
  return found.stream.response

def pivot (s : Service) (call : Call) : Except RequestError HttpResponse := do
  let params ← (QueryParams.read call.params).mapError .param
  let config ← (QueryParams.pivotConfig call.params).mapError RequestError.param
  let result ← (s.aggregation.pivot (params.aggregationRequest call.document call.token)
    config).mapError .query
  return .text 200 .json result.toValue.text

def chart (s : Service) (call : Call) : Except RequestError HttpResponse := do
  let params ← (QueryParams.read call.params).mapError .param
  let config ← (QueryParams.chartConfig call.params).mapError RequestError.param
  let result ← (s.aggregation.chart (params.aggregationRequest call.document call.token)
    config).mapError .query
  return { HttpResponse.text 200 .svg result.svg with total := result.total }

def kpi (s : Service) (call : Call) : Except RequestError HttpResponse := do
  let params ← (QueryParams.read call.params).mapError .param
  let config ← (QueryParams.kpiConfig call.params).mapError RequestError.param
  let result ← (s.aggregation.kpi (params.aggregationRequest call.document call.token)
    config).mapError .query
  return .text 200 .json result.toValue.text

/-- Answers a call, or tells its error. -/
def answer (run : Call → Except RequestError HttpResponse) (request : HttpRequest)
    (document : String) : HttpResponse :=
  match Percent.readText? document with
  | none => .text 400 .plain "Invalid URL: Invalid UTF-8 in `document`"
  | some document =>
    match run ⟨document, Form.read request.query, Credentials.token? request.headers⟩ with
    | .ok response => response
    | .error e => e.response

def serve (s : Service) (request : HttpRequest) : Endpoint → HttpResponse
  | .health => .text 200 .json healthReport.text
  | .find document => answer s.find request document
  | .pivot document => answer s.pivot request document
  | .chart document => answer s.chart request document
  | .kpi document => answer s.kpi request document

/-- Endpoints are only read from; asking without wanting the body is reading too. -/
def route (s : Service) (request : HttpRequest) : HttpResponse :=
  match Endpoint.ofPath? request.path with
  | none => .bare 404
  | some endpoint =>
    if request.method = "GET" then s.serve request endpoint
    else if request.method = "HEAD" then (s.serve request endpoint).withoutBody
    else .bare 405

/-- Pages ask for permission with a method of its own, on any path. -/
def respond (s : Service) (request : HttpRequest) : HttpResponse :=
  { if request.method = "OPTIONS" then HttpResponse.bare 200 else s.route request with
    origin := allowedOrigin s.origins request.headers }

end Service

end RecordQuery
