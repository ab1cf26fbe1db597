import RecordQuery.Bridge.Message

/-!
The aggregating program: it reads a request and one record a line, and writes one reply line,
followed by the payload if it succeeds.
-/

namespace RecordQuery

/-- What an aggregating program has done with its input. -/
structure AggregatorRun where
  /-- The number of records taken. -/
  rows : Except SessionError Nat
  output : String

namespace Aggregator

/-- Lines that hold anything but blanks. -/
def fullLines (input : String) : List String :=
  (Text.split '\n' input).filter fun line => Text.trim line ≠ ""

def kindOf? (name : String) : Option AggregationKind :=
  [AggregationKind.pivot, .graph, .kpi].find? fun kind => kind.name = name

/-- Reads the request line. A request without a configuration has the null one. -/
def readRequest (line : String) : Except SessionError AggregationInit :=
  match Value.read? line with
  | none => .error .malformedRequest
  | some v =>
    if (v.get? "jsonrpc").bind Value.asStr? ≠ some messageVersion then .error .versionMismatch
    else
      let name := ((v.get? "method").bind Value.asStr?).getD ""
      match kindOf? name with
      | none => .error (.unknownMethod name)
      | some kind => .ok ⟨kind, ((v.get? "params").bind (·.get? "config")).getD .null⟩

def readRecord (line : String) : Except SessionError Record :=
  match Value.read? line with
  | some (.obj record) => .ok record
  | _ => .error .malformedRecord

/-- Takes the record of each line in turn. -/
def takeLines (s : Session) : List String → Except SessionError Session
  | [] => .ok s
  | line :: rest => do
    let record ← readRecord line
    takeLines (s.push record) rest

/-- The session after the whole input. -/
def session (input : String) : Except SessionError Session :=
  match fullLines input with
  | [] => .error .requestMissing
  | request :: records => do
    let init ← readRequest request
    let s ← Session.start init
    takeLines s records

/-- Runs one aggregation over a text. -/
def run (input : String) : AggregatorRun :=
  match session input with
  | .ok s =>
    { rows := .ok s.rows
      output := (Reply.success s.rows).line ++ s.finish.payload ++ "\n" }
  | .error e => ⟨.error e, (Reply.failed e.code e.message).line⟩

end Aggregator

end RecordQuery
