import RecordQuery.Filter.Predicate
import RecordQuery.Filter.Syntax

/-!
Filters with every condition checked and every value resolved. The store's query and the predicate
on records are both read off this one form.
-/

namespace RecordQuery

/-- A test of one term. -/
inductive Clause
  | equals (v : Value)
  | differs (v : Value)
  /-- A pattern with its text. -/
  | pattern (text : String) (p : Pattern) (negated : Bool)
  | isOneOf (vs : List Value)
  | isNoneOf (vs : List Value)
  | greater (v : Value)
  | atLeast (v : Value)
  | less (v : Value)
  | atMost (v : Value)
  | range (low high : Option Value)
  | present (expected : Bool)

namespace Clause

/-- What a query asks of the term. -/
def toQuery : Clause → Value
  | equals v => v
  | differs v => .obj [("$ne", v)]
  | pattern text _ negated =>
    let expression := Value.obj [("$regex", .str text), ("$options", .str "i")]
    if negated then .obj [("$not", expression)] else expression
  | isOneOf vs => .obj [("$in", .arr vs)]
  | isNoneOf vs => .obj [("$nin", .arr vs)]
  | greater v => .obj [("$gt", v)]
  | atLeast v => .obj [("$gte", v)]
  | less v => .obj [("$lt", v)]
  | atMost v => .obj [("$lte", v)]
  | range low high =>
    .obj ((low.map fun v => ("$gte", v)).toList ++ (high.map fun v => ("$lte", v)).toList)
  | present expected => .obj [("$exists", .bool expected)]

def toTest : Clause → FieldTest
  | equals v => .equals v
  | differs v => .differs v
  | pattern _ p negated =>
    if negated then .negation (.matchesPattern p) else .matchesPattern p
  | isOneOf vs => .isOneOf vs
  | isNoneOf vs => .isNoneOf vs
  | greater v => .greater v
  | atLeast v => .atLeast v
  | less v => .less v
  | atMost v => .atMost v
  | range low high => .all ((low.map .atLeast).toList ++ (high.map .atMost).toList)
  | present expected => .present expected

end Clause

/-- A condition on a normalized term; without a clause it asks nothing. -/
structure CompiledCondition where
  term : String
  clause : Option Clause
  negated : Bool

namespace CompiledCondition

def toQuery (c : CompiledCondition) : Value :=
  match c.clause with
  | none => .obj []
  | some clause =>
    .obj [(c.term, if c.negated then .obj [("$not", clause.toQuery)] else clause.toQuery)]

def toPredicate (c : CompiledCondition) : Predicate :=
  match c.clause with
  | none => .always
  | some clause =>
    .field c.term (if c.negated then .negation clause.toTest else clause.toTest)

end CompiledCondition

inductive CompiledFilter
  | always
  | condition (c : CompiledCondition)
  | all (parts : List CompiledFilter)
  | any (parts : List CompiledFilter)

namespace CompiledFilter

/-- No part asks nothing and one part stands for itself. -/
def combine (combination : Combination) : List CompiledFilter → CompiledFilter
  | [] => always
  | [part] => part
  | parts =>
    match combination with
    | .and => all parts
    | .or => any parts

mutual
def toQuery : CompiledFilter → Value
  | always => .obj []
  | condition c => c.toQuery
  | all parts => .obj [("$and", .arr (toQueries parts))]
  | any parts => .obj [("$or", .arr (toQueries parts))]

def toQueries : List CompiledFilter → List Value
  | [] => []
  | part :: rest => toQuery part :: toQueries rest
end

mutual
def toPredicate : CompiledFilter → Predicate
  | always => .always
  | condition c => c.toPredicate
  | all parts => .all (toPredicates parts)
  | any parts => .any (toPredicates parts)

def toPredicates : List CompiledFilter → List Predicate
  | [] => []
  | part :: rest => toPredicate part :: toPredicates rest
end

end CompiledFilter

end RecordQuery
