import RecordQuery.Digest.Sha256
import RecordQuery.Filter.Compiled
import RecordQuery.Filter.Operator
import RecordQuery.Filter.Token
import RecordQuery.Pattern.Accent
import RecordQuery.Value.Printer

/-!
Compiling filters: terms are followed through lookups to a typed field, operators are checked
against the type, and values are resolved and coerced to it.
-/

namespace RecordQuery

/-- What is wrong with the value of a condition. -/
inductive ValueFault
  | token (e : TokenError)
  | notText
  | operatorsAsValue
  | malformedPattern

namespace ValueFault

def message : ValueFault → String
  | token e => e.message
  | notText => "expected text"
  | operatorsAsValue => "operator objects are not allowed as values"
  | malformedPattern => "malformed pattern"

end ValueFault

/-- What is wrong with a sort specification. -/
inductive SortFault
  | notReadable
  | entryWithoutTerm
  | unexpected (v : Value)
  | unknownDirection (v : Value)

namespace SortFault

def message : SortFault → String
  | notReadable => "malformed JSON"
  | entryWithoutTerm => "entry needs property or term"
  | unexpected v => "unexpected " ++ v.text
  | unknownDirection v => "unknown direction " ++ v.text

end SortFault

inductive CompileError
  /-- A term, a known operator or a value is missing. -/
  | incompleteCondition
  | unknownField (term document : String)
  | unknownDocument (document : String)
  | unsupportedType (type term : String)
  | unsupportedOperator (term : String) (operator : Operator) (allowed : List Operator)
  | invalidValue (term : String) (fault : ValueFault)
  | invalidSort (fault : SortFault)

namespace CompileError

def kind : CompileError → String
  | incompleteCondition => "InvalidCondition"
  | unknownField _ _ => "UnknownField"
  | unknownDocument _ => "UnknownDocument"
  | unsupportedType _ _ => "UnsupportedType"
  | unsupportedOperator _ _ _ => "UnsupportedOperator"
  | invalidValue _ _ => "InvalidValue"
  | invalidSort _ => "InvalidSort"

def message : CompileError → String
  | incompleteCondition => "All conditions must contain term, operator and value"
  | unknownField term document => "Field [" ++ term ++ "] does not exists at [" ++ document ++ "]"
  | unknownDocument document => "Document [" ++ document ++ "] not found"
  | unsupportedType type term =>
    "Field type [" ++ type ++ "] of [" ++ term ++ "] not supported to filter"
  | unsupportedOperator term operator allowed =>
    "Field [" ++ term ++ "] only supports operators [" ++ Operator.join allowed
      ++ "]. Trying to use operator [" ++ operator.name ++ "]"
  | invalidValue term fault => "Invalid value for [" ++ term ++ "]: " ++ fault.message
  | invalidSort fault => "Invalid sort: " ++ fault.message

end CompileError

/-- A term followed to its field: the field's type and the path left below it. -/
structure ResolvedTerm where
  fieldType : String
  below : Path

namespace ResolvedTerm

def type (t : ResolvedTerm) : TermType :=
  t.below.foldl (fun text segment => text ++ "." ++ segment) t.fieldType

/-- Whether the term is the identifier of what a field refers to. -/
def isIdentifier (t : ResolvedTerm) : Bool := t.below = ["_id"]

end ResolvedTerm

namespace Term

/-- Without the first `data` segment past the field, which lists once had. -/
def normalize (term : String) : String :=
  match Path.ofText term with
  | [] => term
  | head :: rest => Path.text (head :: rest.erase "data")

/-- Follows lookups: all segments but a final `_id` are looked for in the referenced document. -/
def resolveBelow (registry : Registry) (term : String) (field : Field) :
    Path → Except CompileError ResolvedTerm
  | [] => .ok ⟨field.type, []⟩
  | segment :: rest =>
    if field.isLookup ∧ segment :: rest ≠ ["_id"] then
      let target := Registry.target field
      match registry.document? target with
      | none => .error (.unknownDocument target)
      | some referenced =>
        match referenced.field? segment with
        | none => .error (.unknownField term target)
        | some next => resolveBelow registry term next rest
    else .ok ⟨field.type, segment :: rest⟩

def resolve (registry : Registry) (document : DocumentType) (term : String) :
    Except CompileError ResolvedTerm :=
  match Path.ofText term with
  | [] => .error (.unknownField term document.name)
  | head :: rest =>
    if head = "_id" then .ok ⟨"ObjectId", rest⟩
    else match document.field? head with
      | none => .error (.unknownField term document.name)
      | some field => resolveBelow registry term field rest

end Term

namespace Operand

/-- The digest of a text, or of the text of any other value. -/
def hash : Value → Value
  | .str s => .str (Sha256.hexDigest s)
  | v => .str (Sha256.hexDigest v.text)

/-- A written number: whole within signed 64 bits, else a finite double. -/
def readNumber? (s : String) : Option Value :=
  let cs := Text.trimChars s.toList
  let (negative, ds) := match cs with
    | '-' :: rest => (true, rest)
    | '+' :: rest => (false, rest)
    | rest => (false, rest)
  let n : Int := Decimal.ofDigits ds
  let whole := ds ≠ [] ∧ ds.all Char.isDigit
  if whole ∧ (if negative then n ≤ Word.bound63 else n < Word.bound63) then
    some (.int (if negative then -n else n))
  else (Decimal.readFloat? cs).bind fun x =>
    if Binary64.isFinite x then some (.num (.real x)) else none

/-- The instant that a value denotes for a date: a native date, a written one, or a record with a
written `$date` among other names. -/
def date? (v : Value) : Option Instant :=
  v.asDate?.or ((v.asStr?.bind Instant.read?).or
    (((v.get? Value.dateName).bind Value.asStr?).bind Instant.read?))

/-- Adapts a value to the type of its term; what does not fit stays as it is. -/
def coerce (type : TermType) (v : Value) : Value :=
  if type.isDate then
    match date? v with
    | some t => Value.ofDate t
    | none => v
  else if type.isNumeric || type = "phone.countryCode" then
    ((v.asStr?.bind readNumber?).getD v)
  else if type = "phone.phoneNumber" then
    match v with
    | .num n => .str n.text
    | v => v
  else v

/-- Lists are adapted item by item. -/
def each (f : Value → Value) : Value → Value
  | .arr items => .arr (items.map f)
  | v => f v

/-- The value of a condition: tokens first, then identifiers as they are, digests of encrypted
values, and the rest adapted to the type. -/
def resolve (ctx : FilterContext) (operator : Operator) (term : String) (resolved : ResolvedTerm)
    (raw : Value) : Except CompileError Value := do
  let plain := if resolved.type = "encrypted" && operator != .isPresent then each hash raw
    else each (coerce resolved.type) raw
  match raw with
  | .str s =>
    match Token.resolve s ctx with
    | .error e => .error (.invalidValue term (.token e))
    | .ok (some v) => .ok v
    | .ok none => .ok (if resolved.isIdentifier then raw else plain)
  | _ => .ok plain

mutual
/-- Whether a value could be taken for a document of operators. Lists are searched, the entries
of a record are not. -/
def hidesOperators : Value → Bool
  | .obj fields =>
    (Value.asDate? (.obj fields)).isNone && fields.any fun entry => entry.1.startsWith "$"
  | .arr items => anyHidesOperators items
  | _ => false

def anyHidesOperators : List Value → Bool
  | [] => false
  | v :: rest => hidesOperators v || anyHidesOperators rest
end

def checkLiteral (term : String) (v : Value) : Except CompileError Value :=
  if hidesOperators v then .error (.invalidValue term .operatorsAsValue) else .ok v

/-- One bound of a range; null counts as absent. -/
def bound (ctx : FilterContext) (term : String) (resolved : ResolvedTerm) (bounds : Record)
    (name : String) : Except CompileError (Option Value) :=
  match Fields.get? bounds name with
  | none | some .null => .ok none
  | some raw => do
    let v ← resolve ctx .between term resolved raw
    return some (← checkLiteral term v)

def asList : Value → List Value
  | .arr items => items
  | v => [v]

end Operand

namespace Condition

def textClause (term : String) (operator : Operator) (v : Value) : Except CompileError Clause := do
  let text ← match v with
    | .str s => .ok s
    | .num n => .ok n.text
    | _ => .error (.invalidValue term .notText)
  let accents := Pattern.accentText text
  let pattern := match operator with
    | .startsWith => "^" ++ accents
    | .endsWith => accents ++ "$"
    | _ => accents
  match Pattern.read? ⟨true, false, false⟩ pattern with
  | some p => .ok (.pattern pattern p (operator = .notContains))
  | none => .error (.invalidValue term .malformedPattern)

def rangeClause (ctx : FilterContext) (term : String) (resolved : ResolvedTerm) (raw : Value) :
    Except CompileError (Option Clause) := do
  match raw with
  | .obj bounds =>
    let low ← Operand.bound ctx term resolved bounds "greater_or_equals"
    let high ← Operand.bound ctx term resolved bounds "less_or_equals"
    return if low.isNone && high.isNone then none else some (.range low high)
  | _ => return none

/-- The clause of an operator, `none` for a range without bounds. -/
def clause (ctx : FilterContext) (operator : Operator) (term : String) (resolved : ResolvedTerm)
    (raw : Value) : Except CompileError (Option Clause) :=
  let literal (make : Value → Clause) : Except CompileError (Option Clause) := do
    let v ← Operand.resolve ctx operator term resolved raw
    let v ← Operand.checkLiteral term v
    return some (make v)
  match operator with
  | .currentUser => .ok (some (.equals (.str ctx.user.id)))
  | .notCurrentUser => .ok (some (.differs (.str ctx.user.id)))
  | .currentUserGroup => .ok (some (.equals (Token.orNull ctx.user.group)))
  | .notCurrentUserGroup => .ok (some (.differs (Token.orNull ctx.user.group)))
  | .currentUserGroups => .ok (some (.isOneOf (ctx.user.allGroups.map .str)))
  | .isPresent => do
    let v ← Operand.resolve ctx operator term resolved raw
    return some (.present (v.asBool?.getD true))
  | .between => rangeClause ctx term resolved raw
  | .contains | .notContains | .startsWith | .endsWith => do
    let v ← Operand.resolve ctx operator term resolved raw
    return some (← textClause term operator v)
  | .equals => literal .equals
  | .notEquals => literal .differs
  | .isIn => literal fun v => .isOneOf (Operand.asList v)
  | .isNotIn => literal fun v => .isNoneOf (Operand.asList v)
  | .greaterThan => literal .greater
  | .greaterOrEquals => literal .atLeast
  | .lessThan => literal .less
  | .lessOrEquals => literal .atMost

/-- An inverted equality is an inequality; any other inverted clause is negated. -/
def invert (term : String) (inverted : Bool) : Option Clause → CompiledCondition
  | some (.equals v) =>
    if inverted then ⟨term, some (.differs v), false⟩ else ⟨term, some (.equals v), false⟩
  | clause => ⟨term, clause, inverted⟩

def compile (ctx : FilterContext) (document : DocumentType) (c : Condition) :
    Except CompileError CompiledCondition := do
  match Operator.ofName? c.operator, c.value, c.term.isEmpty with
  | some operator, some raw, false =>
    let term := Term.normalize c.term
    let resolved ← Term.resolve ctx.registry document term
    match resolved.type.operators? with
    | none => .error (.unsupportedType resolved.type term)
    | some allowed =>
      if !allowed.contains operator then .error (.unsupportedOperator term operator allowed)
      else do
        let clause ← clause ctx operator term resolved raw
        return invert term c.inverted clause
  | _, _, _ => .error .incompleteCondition

end Condition

namespace Filter

def compileConditions (ctx : FilterContext) (document : DocumentType) :
    List Condition → Except CompileError (List CompiledFilter)
  | [] => .ok []
  | c :: rest => do
    let compiled ← c.compile ctx document
    let others ← compileConditions ctx document rest
    return .condition compiled :: others

mutual
/-- Parts before conditions; disabled ones ask nothing and are not checked. -/
def compile (ctx : FilterContext) (document : DocumentType) :
    Filter → Except CompileError CompiledFilter
  | ⟨combination, parts, conditions, _, _⟩ => do
    let parts ← compileParts ctx document parts
    let conditions ← compileConditions ctx document conditions.active
    return .combine combination (parts ++ conditions)

def compileParts (ctx : FilterContext) (document : DocumentType) :
    List Filter → Except CompileError (List CompiledFilter)
  | [] => .ok []
  | f :: rest =>
    if f.disabled then compileParts ctx document rest
    else do
      let compiled ← compile ctx document f
      let others ← compileParts ctx document rest
      return compiled :: others
end

/-- Adds a word search beside the clauses of a query. -/
def addSearch (query : Value) (search : String) : Value :=
  match query with
  | .obj fields => .obj (Fields.insert fields "$text" (.obj [("$search", .str search)]))
  | v => v

/-- The store's query for a filter. Only the outermost filter's search counts. -/
def compileQuery (ctx : FilterContext) (document : DocumentType) (f : Filter) :
    Except CompileError Value := do
  let compiled ← f.compile ctx document
  return match f.search with
    | some search => addSearch compiled.toQuery search
    | none => compiled.toQuery

/-- The predicate for a filter. -/
def compilePredicate (ctx : FilterContext) (document : DocumentType) (f : Filter) :
    Except CompileError Predicate := do
  let compiled ← f.compile ctx document
  return match f.search with
    | some search => .all [compiled.toPredicate, .words search]
    | none => compiled.toPredicate

end Filter

end RecordQuery
