import RecordQuery.Value.Printer

/-!
Why a store refuses a query or fails to answer it.
-/

namespace RecordQuery

inductive StoreError
  | unknownOperator (name : String)
  | notAQuery (v : Value)
  /-- The operator's argument has to be a list. -/
  | needsList (operator : String)
  | textNeedsSearch
  | notNeedsOperators
  | patternNotText
  | malformedPattern
  | unreadableSeed (path reason : String)
  | malformedSeed
  | strayRecord (document : String) (v : Value)
  | cursor (reason : String)

namespace StoreError

/-- Whether the query is at fault, and not the source. -/
def isQueryFault : StoreError → Bool
  | unreadableSeed _ _ | malformedSeed | strayRecord _ _ | cursor _ => false
  | _ => true

def kind : StoreError → String
  | unknownOperator _ => "UnknownOperator"
  | unreadableSeed _ _ => "Io"
  | malformedSeed | strayRecord _ _ => "Parse"
  | cursor _ => "Cursor"
  | _ => "InvalidQuery"

def message : StoreError → String
  | unknownOperator name => "Unsupported query operator: " ++ name
  | notAQuery v => "Invalid query: expected a query document, got " ++ v.text
  | needsList operator => "Invalid query: " ++ operator ++ " needs an array"
  | textNeedsSearch => "Invalid query: $text needs $search"
  | notNeedsOperators => "Invalid query: $not needs an operator document"
  | patternNotText => "Invalid query: $regex needs a string"
  | malformedPattern => "Invalid query: malformed pattern"
  | unreadableSeed path reason => "Failed to read seed data: " ++ path ++ ": " ++ reason
  | malformedSeed => "Failed to parse seed data: malformed JSON"
  | strayRecord document v =>
    "Failed to parse seed data: " ++ document ++ " holds a non-object record: " ++ v.text
  | cursor reason => "Cursor failed: " ++ reason

end StoreError

end RecordQuery
