import RecordQuery.Text.Blank
import RecordQuery.Value.Basic

/-!
Requests and responses, as far as reading records needs them.
-/

namespace RecordQuery

/-- Headers in the order they were sent; names do not depend on letter case. -/
abbrev Headers := List (String × String)

namespace Headers

/-- All values of a header. -/
def all (headers : Headers) (name : String) : List String :=
  (headers.filter fun header => header.1.toLower = name).map (·.2)

def first? (headers : Headers) (name : String) : Option String := (all headers name).head?

/-- Visible characters and tabs: what a header may hold to be read as text. -/
def isReadable (value : String) : Bool :=
  value.toList.all fun c => c = '\t' || (32 ≤ c.toNat && c.toNat < 127)

end Headers

structure HttpRequest where
  method : String
  path : String
  /-- The part of the target behind the question mark, as sent. -/
  query : String
  headers : Headers

namespace HttpRequest

/-- Splits a target into path and query; a fragment is no part of either. -/
def ofTarget (method target : String) (headers : Headers) : HttpRequest :=
  let cs := target.toList.takeWhile (· ≠ '#')
  { method
    path := String.ofList (cs.takeWhile (· ≠ '?'))
    query := String.ofList ((cs.dropWhile (· ≠ '?')).drop 1)
    headers }

end HttpRequest

inductive MediaType
  | json
  /-- One record a line. -/
  | records
  | svg
  | plain
  deriving DecidableEq, Repr

def MediaType.name : MediaType → String
  | json => "application/json"
  | records => "application/x-ndjson"
  | svg => "image/svg+xml"
  | plain => "text/plain; charset=utf-8"

structure HttpResponse where
  status : Nat
  media : Option MediaType
  body : String
  /-- Whether the body reached its end. -/
  complete : Bool
  /-- Number of all records behind a drawing. -/
  total : Option Nat
  /-- The origin that may read the response. -/
  origin : Option String
  deriving DecidableEq, Repr

namespace HttpResponse

def bare (status : Nat) : HttpResponse := ⟨status, none, "", true, none, none⟩

def text (status : Nat) (media : MediaType) (body : String) : HttpResponse :=
  { bare status with media, body }

/-- The same response without its body. -/
def withoutBody (r : HttpResponse) : HttpResponse := { r with body := "", complete := true }

end HttpResponse

end RecordQuery
