import RecordQuery.Bridge.Aggregator
import RecordQuery.Find.Basic

/-!
Where aggregations run. The engine can take the records itself, or write them to an aggregating
program and read its output; both ways lead to the same result.
-/

namespace RecordQuery

/-- Takes a configuration and records to an output. -/
abbrev Backend := AggregationInit → RecordStream → Except BridgeError AggregationOutput

namespace Backend

/-- An error of a session as the program would report it. -/
def reported (e : SessionError) : BridgeError := .rpc e.code e.message ""

/-- Runs the aggregation here. A stream that fails has no result. -/
def inProcess : Backend := fun init stream => do
  let s ← (Session.start init).mapError reported
  match stream.failure with
  | some e => .error (.streamFailed e.message)
  | none => return (s.pushAll stream.records).finish

/-- What an aggregating program reads: the request and one line for each record. -/
def input (init : AggregationInit) (records : List Record) : String :=
  init.line ++ String.join (records.map Record.line)

/-- Runs the aggregation through the texts that an aggregating program reads and writes. -/
def overWire : Backend := fun init stream =>
  match stream.failure with
  | some e => .error (.streamFailed e.message)
  | none => do
    let (_, payload) ← AggregationOutput.split (Aggregator.run (input init stream.records)).output
    AggregationOutput.readPayload init.kind payload

end Backend

end RecordQuery
