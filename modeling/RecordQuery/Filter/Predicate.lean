import RecordQuery.Pattern.Reader
import RecordQuery.Text.Case
import RecordQuery.Value.Order

/-!
Tests on records. A path may reach many values, and a test holds if one of them passes; a list is
tested as a whole and item by item. Equality with null also holds where nothing is reached.
-/

namespace RecordQuery

/-- A test of the values at one path. -/
inductive FieldTest
  | equals (v : Value)
  | differs (v : Value)
  | greater (v : Value)
  | atLeast (v : Value)
  | less (v : Value)
  | atMost (v : Value)
  | isOneOf (vs : List Value)
  | isNoneOf (vs : List Value)
  | present (expected : Bool)
  | matchesPattern (p : Pattern)
  | negation (test : FieldTest)
  | all (tests : List FieldTest)

/-- A test of a record. -/
inductive Predicate
  | always
  | all (parts : List Predicate)
  | any (parts : List Predicate)
  | field (path : String) (test : FieldTest)
  /-- One of the words occurs in one of the record's texts. -/
  | words (search : String)

namespace FieldTest

/-- The values reached and the items of those that are lists. -/
def candidates : List Value → List Value
  | [] => []
  | .arr items :: rest => .arr items :: items ++ candidates rest
  | v :: rest => v :: candidates rest

def equalsAny (found : List Value) (expected : Value) : Bool :=
  (expected = .null && found.isEmpty) || (candidates found).any fun v => v.equal expected

def comparesAny (found : List Value) (bound : Value) (accept : Ordering → Bool) : Bool :=
  (candidates found).any fun v =>
    match v.compareSameKind? bound with
    | some o => accept o
    | none => false

def matchesAny (found : List Value) (p : Pattern) : Bool :=
  (candidates found).any fun v =>
    match v with
    | .str s => p.search s
    | _ => false

mutual
/-- Whether the values reached by a path pass. -/
def holds : FieldTest → List Value → Bool
  | equals v, found => equalsAny found v
  | differs v, found => !equalsAny found v
  | greater v, found => comparesAny found v (· == .gt)
  | atLeast v, found => comparesAny found v (· != .lt)
  | less v, found => comparesAny found v (· == .lt)
  | atMost v, found => comparesAny found v (· != .gt)
  | isOneOf vs, found => vs.any (equalsAny found)
  | isNoneOf vs, found => !vs.any (equalsAny found)
  | present expected, found => found.isEmpty != expected
  | matchesPattern p, found => matchesAny found p
  | negation test, found => !holds test found
  | all tests, found => holdAll tests found

def holdAll : List FieldTest → List Value → Bool
  | [], _ => true
  | test :: rest, found => holds test found && holdAll rest found
end

end FieldTest

namespace Value

mutual
/-- All texts inside a value. -/
def texts : Value → List String
  | str s => [s]
  | arr items => textsOfList items
  | obj fields => textsOfFields fields
  | _ => []

def textsOfList : List Value → List String
  | [] => []
  | v :: rest => texts v ++ textsOfList rest

def textsOfFields : List (String × Value) → List String
  | [] => []
  | (_, v) :: rest => texts v ++ textsOfFields rest
end

end Value

namespace Predicate

/-- Case does not count; a search without a word finds nothing. -/
def findsWord (search : String) (r : Record) : Bool :=
  let words := (Text.words search).map fun w => (Text.lower w).toList
  (Value.textsOfFields r).any fun s =>
    let lower := (Text.lower s).toList
    words.any fun w => Text.occurs w lower

mutual
def holds : Predicate → Record → Bool
  | always, _ => true
  | all parts, r => allHold parts r
  | any parts, r => anyHolds parts r
  | field path test, r => test.holds (Record.reach r (Path.ofText path))
  | words search, r => findsWord search r

def allHold : List Predicate → Record → Bool
  | [], _ => true
  | p :: rest, r => holds p r && allHold rest r

def anyHolds : List Predicate → Record → Bool
  | [], _ => false
  | p :: rest, r => holds p r || anyHolds rest r
end

end Predicate

end RecordQuery
