import RecordQuery.Filter.Predicate
import RecordQuery.Store.Error

/-!
The store's query documents, read back into predicates. A field's value is compared as it stands
unless all its names begin with a dollar sign; a native date is always a plain value.
-/

namespace RecordQuery

namespace Query

def isOperatorName (name : String) : Bool := name.startsWith "$"

/-- Whether a value is a document of operators. -/
def isOperators : Value → Bool
  | .obj fields =>
    !fields.isEmpty && !(Value.obj fields).isDate && fields.all fun entry => isOperatorName entry.1
  | _ => false

def listArgument (operator : String) : Value → Except StoreError (List Value)
  | .arr items => .ok items
  | _ => .error (.needsList operator)

/-- Options hold the flags of a pattern in any order. -/
def patternFlags (options : Option Value) : Pattern.Flags :=
  let letters := match options with
    | some (.str s) => s.toList
    | _ => []
  ⟨letters.contains 'i', letters.contains 'm', letters.contains 's'⟩

def patternTest (options : Option Value) : Value → Except StoreError FieldTest
  | .str s =>
    match Pattern.read? (patternFlags options) s with
    | some p => .ok (.matchesPattern p)
    | none => .error .malformedPattern
  | _ => .error .patternNotText

/-- A single test stands for itself. -/
def conjunction : List FieldTest → FieldTest
  | [test] => test
  | tests => .all tests

/-- The tests of an operator other than `$not`; options only qualify the pattern beside them. -/
def readOperator (options : Option Value) (name : String) (v : Value) :
    Except StoreError (List FieldTest) :=
  match name with
  | "$eq" => .ok [.equals v]
  | "$ne" => .ok [.differs v]
  | "$gt" => .ok [.greater v]
  | "$gte" => .ok [.atLeast v]
  | "$lt" => .ok [.less v]
  | "$lte" => .ok [.atMost v]
  | "$in" => (listArgument name v).map fun vs => [.isOneOf vs]
  | "$nin" => (listArgument name v).map fun vs => [.isNoneOf vs]
  | "$exists" => .ok [.present (v.asBool?.getD true)]
  | "$regex" => (patternTest options v).map fun test => [test]
  | "$options" => .ok []
  | _ => .error (.unknownOperator name)

mutual
/-- The negation of a document of operators. -/
def readNegation : Value → Except StoreError FieldTest
  | .obj fields =>
    if isOperators (.obj fields) then do
      let tests ← readOperators (Fields.get? fields "$options") fields
      return .negation (conjunction tests)
    else .error .notNeedsOperators
  | _ => .error .notNeedsOperators

def readOperators (options : Option Value) :
    List (String × Value) → Except StoreError (List FieldTest)
  | [] => .ok []
  | (name, v) :: rest => do
    let tests ←
      if name = "$not" then (readNegation v).map fun test => [test]
      else readOperator options name v
    let others ← readOperators options rest
    return tests ++ others
end

/-- What a query asks of one field. -/
def readField (v : Value) : Except StoreError FieldTest :=
  match v with
  | .obj fields =>
    if isOperators (.obj fields) then do
      return conjunction (← readOperators (Fields.get? fields "$options") fields)
    else .ok (.equals v)
  | _ => .ok (.equals v)

def readWords (v : Value) : Except StoreError Predicate :=
  match (v.get? "$search").bind Value.asStr? with
  | some search => .ok (.words search)
  | none => .error .textNeedsSearch

/-- No clause holds always, one clause stands for itself. -/
def allClauses : List Predicate → Predicate
  | [] => .always
  | [p] => p
  | parts => .all parts

mutual
/-- The predicate of a query document. -/
def read : Value → Except StoreError Predicate
  | .obj fields => (readClauses fields).map allClauses
  | v => .error (.notAQuery v)

def readClauses : List (String × Value) → Except StoreError (List Predicate)
  | [] => .ok []
  | (name, v) :: rest => do
    let clause ←
      if name = "$and" then (readParts name v).map Predicate.all
      else if name = "$or" then (readParts name v).map Predicate.any
      else if name = "$text" then readWords v
      else if isOperatorName name then .error (.unknownOperator name)
      else (readField v).map (Predicate.field name)
    let others ← readClauses rest
    return clause :: others

def readParts (operator : String) : Value → Except StoreError (List Predicate)
  | .arr items => readEach items
  | _ => .error (.needsList operator)

def readEach : List Value → Except StoreError (List Predicate)
  | [] => .ok []
  | v :: rest => do
    let p ← read v
    let others ← readEach rest
    return p :: others
end

end Query

end RecordQuery
