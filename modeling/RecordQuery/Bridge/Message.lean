import RecordQuery.Aggregation.Session
import RecordQuery.Bridge.Error
import RecordQuery.Value.Printer
import RecordQuery.Value.Reader

/-!
Messages between a query engine and an aggregating program: a request line and record lines one way,
a reply line and a payload the other.
-/

namespace RecordQuery

/-- Version of the message format. -/
def messageVersion : String := "2.0"

namespace AggregationInit

def toValue (init : AggregationInit) : Value :=
  .obj [("jsonrpc", .str messageVersion), ("method", .str init.kind.name),
    ("params", .obj [("config", init.config)])]

/-- The line that opens an aggregation. -/
def line (init : AggregationInit) : String := init.toValue.text ++ "\n"

end AggregationInit

structure ReplyStatus where
  status : String
  rowCount : Nat
  deriving DecidableEq, Repr

structure ReplyFailure where
  code : Int
  message : String
  deriving DecidableEq, Repr

/-- The reply line: what was done, or why it was not. -/
structure Reply where
  version : String
  result : Option ReplyStatus
  failure : Option ReplyFailure
  deriving DecidableEq, Repr

namespace ReplyStatus

def ofValue? (v : Value) : Option ReplyStatus := do
  match ← Shape.slots? [["status"], ["rowCount"]] v with
  | [some status, rows] => return ⟨← status.asStr?, ← Shape.fill 0 Value.asNat? rows⟩
  | _ => none

def toValue (s : ReplyStatus) : Value :=
  .obj [("status", .str s.status), ("rowCount", .nat s.rowCount)]

end ReplyStatus

namespace ReplyFailure

def ofValue? (v : Value) : Option ReplyFailure := do
  match ← Shape.slots? [["code"], ["message"]] v with
  | [some code, some message] => return ⟨← code.asInt?, ← message.asStr?⟩
  | _ => none

def toValue (f : ReplyFailure) : Value :=
  .obj [("code", .int f.code), ("message", .str f.message)]

end ReplyFailure

namespace Reply

def success (rows : Nat) : Reply := ⟨messageVersion, some ⟨"success", rows⟩, none⟩

def failed (code : Int) (message : String) : Reply :=
  ⟨messageVersion, none, some ⟨code, message⟩⟩

def ofValue? (v : Value) : Option Reply := do
  match ← Shape.slots? [["jsonrpc"], ["result"], ["error"]] v with
  | [some version, result, failure] =>
    return ⟨← version.asStr?, ← Shape.fill none (Shape.optional ReplyStatus.ofValue?) result,
      ← Shape.fill none (Shape.optional ReplyFailure.ofValue?) failure⟩
  | _ => none

def toValue (r : Reply) : Value :=
  .obj (Shape.present [("jsonrpc", some (.str r.version)), ("result", r.result.map (·.toValue)),
    ("error", r.failure.map (·.toValue))])

def line (r : Reply) : String := r.toValue.text ++ "\n"

end Reply

namespace AggregationOutput

/-- Splits an aggregating program's output into its reply and the payload behind it. A failure it
reports is an error here. -/
def split (output : String) : Except BridgeError (Reply × String) :=
  let text := String.ofList (output.toList.dropWhile fun c => c = '\n' || c = '\r')
  if Text.trim text = "" then .error (.protocol "RPC response not received" "")
  else
    let (head, payload) := (Text.splitOnce? '\n' text).getD (text, "")
    match (Value.readVerbatim? (Text.trim head)).bind Reply.ofValue? with
    | none => .error (.protocol "invalid RPC response: malformed JSON" "")
    | some reply =>
      match reply.failure, reply.result with
      | some failure, _ => .error (.rpc failure.code failure.message "")
      | none, none => .error (.protocol "RPC response carries neither result nor error" "")
      | none, some _ => .ok (reply, payload)

def readTable (payload : String) : Except BridgeError Value :=
  if Text.trim payload = "" then .error (.protocol "Result data not received" "")
  else
    match Value.read? (Text.trim payload) with
    | some v => .ok v
    | none => .error (.protocol "invalid result data: malformed JSON" "")

/-- Markup begins as a drawing or as a document. -/
def readDrawing (payload : String) : Except BridgeError String :=
  let text := Text.trim payload
  if text = "" then .error (.protocol "SVG data not received" "")
  else if text.startsWith "<svg" || text.startsWith "<?xml" then .ok text
  else .error (.protocol "payload is not SVG markup" "")

/-- The output that the payload of an aggregation of some kind stands for. -/
def readPayload (kind : AggregationKind) (payload : String) :
    Except BridgeError AggregationOutput :=
  match kind with
  | .graph => (readDrawing payload).map svg
  | .pivot | .kpi => (readTable payload).map table

def asTable : AggregationOutput → Except BridgeError Value
  | table v => .ok v
  | svg _ => .error (.protocol "expected table, got SVG" "")

def asDrawing : AggregationOutput → Except BridgeError String
  | svg markup => .ok markup
  | table _ => .error (.protocol "expected SVG, got table" "")

/-- The payload of an output. -/
def payload : AggregationOutput → String
  | table v => v.text
  | svg markup => markup

end AggregationOutput

end RecordQuery
