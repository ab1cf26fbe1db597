import RecordQuery.Bridge.Backend

/-!
What an aggregation is asked over, and the records it is fed. Nothing is started for an empty
stream.
-/

namespace RecordQuery

structure AggregationRequest where
  document : String
  token : Option String
  filter : Option Filter
  sort : Option Value
  limit : Option Int
  displayName : Option String
  displayType : Option String
  /-- Language of labels. -/
  language : String

namespace AggregationRequest

def new (document : String) : AggregationRequest where
  document
  token := none
  filter := none
  sort := none
  limit := none
  displayName := none
  displayType := none
  language := "en"

/-- The request over the same records as a read. -/
def ofFind (r : FindRequest) (language : String) : AggregationRequest where
  document := r.document
  token := r.token
  filter := r.filter
  sort := r.sort
  limit := r.limit
  displayName := r.displayName
  displayType := r.displayType
  language

/-- The greatest limit a read takes. -/
def greatestLimit : Nat := Word.bound63 - 1

/-- The read behind the aggregation: of the fields in a list, if it names any, and of no more
records than `maxRecords`. -/
def findRequest (r : AggregationRequest) (fields : String) (maxRecords : Nat) : FindRequest :=
  let cap : Int := (min maxRecords greatestLimit : Nat)
  { FindRequest.new r.document with
    token := r.token
    filter := r.filter
    sort := r.sort
    fields := if fields = "" then none else some fields
    limit := some (match r.limit with
      | some n => if 0 < n then min n cap else cap
      | none => cap)
    displayName := r.displayName
    displayType := r.displayType
    withTotal := true
    datesToText := true }

end AggregationRequest

/-- Records that are not none, with the number of all matching ones if it was asked for. -/
structure OpenedRecords where
  records : RecordStream
  total : Option (Except StoreError Nat)

/-- Runs aggregations over the reads of an engine. -/
structure AggregationEngine where
  engine : QueryEngine
  backend : Backend
  /-- Records fed into one aggregation; at least one is. -/
  maxRecords : Nat

namespace AggregationEngine

def cap (a : AggregationEngine) : Nat := max a.maxRecords 1

/-- Opens a read. A read that fails at its first record fails as a whole. -/
def openRecords (a : AggregationEngine) (request : FindRequest) :
    Except QueryError (Option OpenedRecords) := do
  let found ← a.engine.find request
  match found.stream.records, found.stream.failure with
  | [], none => return none
  | [], some e => .error (.stream e)
  | _ :: _, _ => return some ⟨found.stream, found.total⟩

def documentOf (a : AggregationEngine) (name : String) : Except QueryError DocumentType :=
  match a.engine.registry.document? name with
  | some document => .ok document
  | none => .error (.unknownDocument name)

/-- The number of all matching records; none was asked for if there is none. -/
def awaitTotal : Option (Except StoreError Nat) → Except QueryError Nat
  | some total => total.mapError .store
  | none => .ok 0

end AggregationEngine

end RecordQuery
