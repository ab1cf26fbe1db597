import RecordQuery.Value.Shape

/-!
Filters as callers write them: trees of conditions on terms. A condition without a value differs
from one whose value is null.
-/

namespace RecordQuery

/-- How the parts of a filter combine. -/
inductive Combination
  | and
  | or
  deriving DecidableEq, Repr, Inhabited

/-- A test of one term; the operator is only checked when the filter is compiled. -/
structure Condition where
  term : String
  operator : String
  value : Option Value
  disabled : Bool
  inverted : Bool
  deriving Inhabited, DecidableEq

/-- Conditions come as a list, or by name in ascending order. -/
inductive Conditions
  | list (items : List Condition)
  | named (items : Fields Condition)
  deriving DecidableEq

namespace Conditions

def toList : Conditions → List Condition
  | list items => items
  | named items => items.map (·.2)

def isEmpty (cs : Conditions) : Bool := cs.toList.isEmpty

/-- Conditions that are not disabled, in order. -/
def active (cs : Conditions) : List Condition := cs.toList.filter fun c => !c.disabled

end Conditions

/-- A node of a filter. -/
structure Filter where
  combination : Combination
  parts : List Filter
  conditions : Conditions
  /-- Words to search in all texts of a record. -/
  search : Option String
  disabled : Bool

namespace Combination

def name : Combination → String
  | and => "and"
  | or => "or"

def ofName? (s : String) : Option Combination :=
  if s = "and" then some and else if s = "or" then some or else none

end Combination

namespace Condition

def new (term operator : String) (value : Value) : Condition :=
  ⟨term, operator, some value, false, false⟩

def ofValue? (v : Value) : Option Condition := do
  match ← Shape.slots? [["term"], ["operator"], ["value"], ["disabled"], ["invert"]] v with
  | [term, operator, value, disabled, inverted] =>
    return ⟨← Shape.text term, ← Shape.text operator, value.map Value.collapse,
      ← Shape.flag disabled, ← Shape.flag inverted⟩
  | _ => none

def toValue (c : Condition) : Value :=
  .obj (Shape.present
    [("term", some (.str c.term)), ("operator", some (.str c.operator)), ("value", c.value),
      ("disabled", if c.disabled then some (.bool true) else none),
      ("invert", if c.inverted then some (.bool true) else none)])

end Condition

namespace Conditions

def ofValue? (v : Value) : Option Conditions :=
  match v with
  | .arr _ => (Shape.list? Condition.ofValue? v).map list
  | _ => (Shape.table? Condition.ofValue? v).map named

def toValue : Conditions → Value
  | list items => .arr (items.map Condition.toValue)
  | named items => .obj (items.map fun (name, c) => (name, c.toValue))

end Conditions

namespace Filter

/-- The filter that asks nothing. -/
def trivial : Filter := ⟨.and, [], .list [], none, false⟩

instance : Inhabited Filter := ⟨trivial⟩

/-- All of the given filters. -/
def allOf (parts : List Filter) : Filter := { trivial with parts }

def ofConditions (combination : Combination) (conditions : List Condition) : Filter :=
  { trivial with combination, conditions := .list conditions }

def slots : List Shape.Slot :=
  [["match"], ["filters"], ["conditions"], ["textSearch"], ["disabled"]]

mutual
def ofValue? : Value → Option Filter
  | .obj fields => if Shape.settled slots fields then ofEntries? fields trivial else none
  | .arr items =>
    ofItems? items ["match", "filters", "conditions", "textSearch", "disabled"] trivial
  | _ => none

def ofEntries? : List (String × Value) → Filter → Option Filter
  | [], f => some f
  | (name, v) :: rest, f => (setNamed? name v f).bind fun f' => ofEntries? rest f'

def ofItems? : List Value → List String → Filter → Option Filter
  | [], _, f => some f
  | _ :: _, [], _ => none
  | v :: rest, name :: names, f => (setNamed? name v f).bind fun f' => ofItems? rest names f'

/-- Sets the entry of that name; unknown names change nothing. -/
def setNamed? (name : String) : Value → Filter → Option Filter
  | v, f =>
    if name = "filters" then (ofPart? v).map fun parts => { f with parts }
    else if name = "match" then
      ((Shape.tag? v).bind Combination.ofName?).map fun combination => { f with combination }
    else if name = "conditions" then
      (Conditions.ofValue? v).map fun conditions => { f with conditions }
    else if name = "textSearch" then
      (Shape.optional Value.asStr? v).map fun search => { f with search }
    else if name = "disabled" then v.asBool?.map fun disabled => { f with disabled }
    else some f

def ofPart? : Value → Option (List Filter)
  | .arr items => ofList? items
  | _ => none

def ofList? : List Value → Option (List Filter)
  | [] => some []
  | v :: rest => (ofValue? v).bind fun f => (ofList? rest).map (f :: ·)
end

mutual
/-- Entries at their defaults are left out, the combination never. -/
def toValue : Filter → Value
  | ⟨combination, parts, conditions, search, disabled⟩ =>
    .obj (Shape.present
      [("match", some (.str combination.name)),
        ("filters", if parts.isEmpty then none else some (.arr (toValues parts))),
        ("conditions", if conditions.isEmpty then none else some conditions.toValue),
        ("textSearch", search.map .str),
        ("disabled", if disabled then some (.bool true) else none)])

def toValues : List Filter → List Value
  | [] => []
  | f :: rest => toValue f :: toValues rest
end

end Filter

end RecordQuery
