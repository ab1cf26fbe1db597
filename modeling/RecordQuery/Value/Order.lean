import RecordQuery.Value.NativeDate
import RecordQuery.Value.Path

/-!
Comparing values: a total preorder for sorting, in which kinds come one after the other, and a
partial one for range tests, which compares numbers, texts and dates within their kind only.
-/

namespace RecordQuery

/-- What a value counts as when values are sorted. A native date is a date, not a record. -/
inductive SortKind
  | absent
  | bool (b : Bool)
  | number (key : Int)
  | text (s : String)
  | date (t : Instant)
  | list
  | record

namespace SortKind

/-- A missing value sorts as null. -/
def of : Option Value → SortKind
  | none | some .null => absent
  | some (.bool b) => bool b
  | some (.num n) => number n.orderKey
  | some (.str s) => text s
  | some (.arr _) => list
  | some (.obj fields) =>
    match Value.asDate? (.obj fields) with
    | some t => date t
    | none => record

def rank : SortKind → Nat
  | absent => 0
  | bool _ => 1
  | number _ => 2
  | text _ => 3
  | date _ => 4
  | list => 5
  | record => 6

/-- Lists are equal among themselves, and so are records. -/
def compare (a b : SortKind) : Ordering :=
  match a, b with
  | bool x, bool y => Ord.compare x y
  | number x, number y => Ord.compare x y
  | text x, text y => compareOfLessAndEq x y
  | date x, date y => x.compare y
  | a, b => Ord.compare a.rank b.rank

end SortKind

namespace Value

/-- The order of sorting: missing and null, booleans, numbers, texts, dates, lists, records. -/
def compare (a b : Option Value) : Ordering := (SortKind.of a).compare (SortKind.of b)

/-- Numbers, texts and dates compare within their kind, anything else not at all. -/
def compareSameKind? (a b : Value) : Option Ordering :=
  match a, b with
  | num x, num y => some (Ord.compare x.orderKey y.orderKey)
  | str x, str y => some (compareOfLessAndEq x y)
  | a, b =>
    match a.asDate?, b.asDate? with
    | some x, some y => some (x.compare y)
    | _, _ => none

/-- Numbers are equal by size and dates by instant, all else if it is the same value. -/
def equal (a b : Value) : Bool :=
  match a, b with
  | num x, num y => x.orderKey = y.orderKey
  | a, b =>
    match a.asDate?, b.asDate? with
    | some x, some y => x = y
    | none, none => same a b
    | _, _ => false

end Value

inductive Direction
  | ascending
  | descending
  deriving DecidableEq, Repr

structure SortKey where
  field : String
  direction : Direction
  deriving DecidableEq, Repr

namespace Direction

def apply : Direction → Ordering → Ordering
  | ascending, o => o
  | descending, o => o.swap

end Direction

namespace Record

/-- Keys in turn; the first that tells the records apart decides. -/
def compare : List SortKey → Record → Record → Ordering
  | [], _, _ => .eq
  | key :: rest, a, b =>
    let path := Path.ofText key.field
    (key.direction.apply (Value.compare (descend? a path) (descend? b path))).then
      (compare rest a b)

/-- Stable: records that no key tells apart keep their order. -/
def sort (keys : List SortKey) (records : List Record) : List Record :=
  records.mergeSort fun a b => compare keys a b != .gt

end Record

end RecordQuery
