import RecordQuery.Access.Projection
import RecordQuery.Aggregation.Error
import RecordQuery.Bridge.Error
import RecordQuery.Caller.Token
import RecordQuery.Store.Error

/-!
Every failure a request can end in, with its status and a stable code.
-/

namespace RecordQuery

/-- A caller may not do what the request asks, or a condition on a field is at fault. -/
inductive AccessError
  | readDenied (document : String)
  | condition (e : CompileError)

namespace AccessError

def status : AccessError → Nat
  | readDenied _ => 403
  | condition _ => 400

def message : AccessError → String
  | readDenied document => "[" ++ document ++ "] You don't have permission read records"
  | condition e => e.message

end AccessError

/-- A failure after a stream has begun; it ends the stream. -/
inductive StreamError
  | store (e : StoreError)
  | condition (e : ConditionError)
  | populate (field reason : String)
  | encode (reason : String)

namespace StreamError

def kind : StreamError → String
  | store _ => "Store"
  | condition _ => "Condition"
  | populate _ _ => "Populate"
  | encode _ => "Encode"

def message : StreamError → String
  | store e => e.message
  | condition e => e.message
  | populate field reason => "Failed to populate [" ++ field ++ "]: " ++ reason
  | encode reason => "Failed to encode record: " ++ reason

end StreamError

inductive QueryError
  | auth (e : AuthError)
  | access (e : AccessError)
  | compile (e : CompileError)
  | unknownDocument (document : String)
  | store (e : StoreError)
  | stream (e : StreamError)
  | bridge (e : BridgeError)
  | aggregation (e : AggregationError)

namespace QueryError

def status : QueryError → Nat
  | auth e => e.status
  | access e => e.status
  | compile _ => 400
  | unknownDocument _ => 404
  | store e => if e.isQueryFault then 400 else 500
  | stream _ | bridge _ => 500
  | aggregation e => e.status

def code : QueryError → String
  | auth _ => "AUTH_ERROR"
  | access (.condition _) => "COMPILE_ERROR"
  | access _ => "ACCESS_DENIED"
  | compile _ => "COMPILE_ERROR"
  | unknownDocument _ => "DOCUMENT_NOT_FOUND"
  | store _ => "STORE_ERROR"
  | stream _ => "STREAM_ERROR"
  | bridge _ => "BRIDGE_ERROR"
  | aggregation e => e.code

def message : QueryError → String
  | auth e => e.message
  | access e => e.message
  | compile e => e.message
  | unknownDocument document => "[" ++ document ++ "] Document not found"
  | store e => e.message
  | stream e => e.message
  | bridge e => e.message
  | aggregation e => e.message

def details : QueryError → Option String
  | aggregation e => e.details
  | _ => none

end QueryError

end RecordQuery
