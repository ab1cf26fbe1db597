import RecordQuery.Caller.Resolver
import RecordQuery.Find.Transform

/-!
Reading records: a request is checked and compiled into a plan, and the plan's cursor is passed
through the stages. The stream ends with its first error.
-/

namespace RecordQuery

/-- What all reads share. -/
structure QueryEngine where
  registry : Registry
  store : Store
  resolver : Resolver
  settings : QuerySettings
  /-- The clock of filter tokens. -/
  now : Instant

/-- A checked read, ready to be opened. -/
structure BuiltQuery where
  user : User
  document : DocumentType
  plan : FindPlan
  access : AccessProjection

/-- Records in order, then at most one error. -/
structure RecordStream where
  records : List Record
  failure : Option StreamError

namespace RecordStream

/-- The items of the stream, one after the other. -/
def items (s : RecordStream) : List (Except StreamError Record) :=
  s.records.map .ok ++ (s.failure.map .error).toList

/-- What comes out of a cursor through the stages, up to the first failure. -/
def ofCursor (stages : List Stage) : Cursor → RecordStream
  | [] => ⟨[], none⟩
  | .error e :: _ => ⟨[], some (.store e)⟩
  | .ok record :: rest =>
    match Stage.run stages record with
    | .error e => ⟨[], some e⟩
    | .ok out =>
      let others := ofCursor stages rest
      ⟨out :: others.records, others.failure⟩

end RecordStream

/-- An open read with the number of all matching records, if it was asked for. -/
structure FindStream where
  stream : RecordStream
  total : Option (Except StoreError Nat)

namespace QueryEngine

/-- The filters that apply to a read. The view's filter stands in for a missing one. -/
def applicableFilters (registry : Registry) (profile : Profile) (request : FindRequest) :
    List Filter :=
  let display := match request.filter, request.displayName, request.displayType with
    | none, some name, some type =>
      (registry.display? request.document type name).bind (·.filter)
    | _, _, _ => none
  display.toList ++ profile.readFilter.toList ++ request.filter.toList

/-- The store's query for a read, with the search of the request's own filter. -/
def compileQuery (ctx : FilterContext) (profile : Profile) (document : DocumentType)
    (request : FindRequest) : Except CompileError Value := do
  let filters := applicableFilters ctx.registry profile request
  let query ← (Filter.allOf filters).compileQuery ctx document
  return match request.filter.bind (·.search) with
    | some search => Filter.addSearch query search
    | none => query

/-- Resolves the caller, checks the access and compiles the read. -/
def build (engine : QueryEngine) (request : FindRequest) : Except QueryError BuiltQuery := do
  let user ← (engine.resolver request.token).mapError .auth
  let profile ← match Access.profileFor? request.document user engine.registry with
    | some profile =>
      if profile.document.read then .ok profile
      else .error (.access (.readDenied request.document))
    | none => .error (.access (.readDenied request.document))
  let document ← match engine.registry.document? request.document with
    | some document => .ok document
    | none => .error (QueryError.unknownDocument request.document)
  let ctx : FilterContext := ⟨engine.registry, user, engine.now⟩
  let query ← (compileQuery ctx profile document request).mapError .compile
  let access ← (Access.project profile document (FindRequest.fieldSet request.fields) ctx).mapError
    fun e => QueryError.access (.condition e)
  let limit := FindRequest.effectiveLimit request.limit engine.settings.defaultLimit
  let sort ← match request.sort with
    | some spec => (SortSpec.read spec document).mapError QueryError.compile
    | none => .ok []
  return {
    user
    document
    access
    plan := {
      query
      sort := if engine.settings.largeResult < limit then [⟨"_id", .ascending⟩] else sort
      skip := FindRequest.effectiveSkip request.start
      limit := some limit
      projection := access.projection } }

/-- The stages of a read, in order. -/
def stages (engine : QueryEngine) (built : BuiltQuery) (request : FindRequest) : List Stage :=
  let details := Populate.lookupsOf built.document
  [Stage.mask built.access, Stage.stripHelpers built.access]
    ++ (if request.withDetails && !details.isEmpty then [Stage.populate engine.store details]
      else [])
    ++ (if request.lookups.isEmpty then [] else [Stage.populate engine.store request.lookups])
    ++ (if request.datesToText then [Stage.normalizeDates] else [])

/-- Opens the records of a checked read. -/
def openStream (engine : QueryEngine) (built : BuiltQuery) (request : FindRequest) :
    Except QueryError FindStream := do
  let cursor ← (engine.store.find request.document built.plan).mapError .store
  return {
    stream := .ofCursor (engine.stages built request) cursor
    total :=
      if request.withTotal then some (engine.store.count request.document built.plan.query)
      else none }

def find (engine : QueryEngine) (request : FindRequest) : Except QueryError FindStream := do
  let built ← engine.build request
  engine.openStream built request

end QueryEngine

namespace Record

/-- A record on a line of its own. -/
def line (r : Record) : String := (Value.obj r).text ++ "\n"

end Record

end RecordQuery
