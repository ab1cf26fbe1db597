import RecordQuery.Number.Word
import RecordQuery.Text.Blank
import RecordQuery.Value.Basic

/-!
Dotted paths into records. A path fans out over the lists it meets: a segment that is a number
addresses a position, and every record of the list is tried as well.
-/

namespace RecordQuery

/-- The segments of a dotted path; there is at least one. -/
abbrev Path := List String

namespace Path

/-- An empty text is one empty segment. -/
def ofText (s : String) : Path := Text.split '.' s

def text (path : Path) : String := ".".intercalate path

/-- The first segment of a path's text. -/
def root (s : String) : String := String.ofList (s.toList.takeWhile (· ≠ '.'))

/-- A list position: digits, with an optional plus sign, within 64 bits. -/
def index? (segment : String) : Option Nat :=
  let ds := match segment.toList with
    | '+' :: rest => rest
    | cs => cs
  if ds ≠ [] ∧ ds.all Char.isDigit then
    let n := ds.foldl (fun n c => 10 * n + (c.toNat - 48)) 0
    if n < Word.bound64 then some n else none
  else none

end Path

namespace Value

mutual
/-- All values that a path reaches from a value. -/
def reach : Value → Path → List Value
  | v, [] => [v]
  | obj fields, segment :: rest => reachField fields segment rest
  | arr items, segment :: rest =>
    reachIndex items (Path.index? segment) rest ++ reachRecords items (segment :: rest)
  | _, _ :: _ => []

def reachField : List (String × Value) → String → Path → List Value
  | [], _, _ => []
  | (name, v) :: more, segment, rest =>
    if name = segment then reach v rest else reachField more segment rest

def reachIndex : List Value → Option Nat → Path → List Value
  | v :: _, some 0, rest => reach v rest
  | _ :: more, some (n + 1), rest => reachIndex more (some n) rest
  | _, _, _ => []

def reachRecords : List Value → Path → List Value
  | [], _ => []
  | v :: more, path => (if v.isRecord then reach v path else []) ++ reachRecords more path
end

/-- The value at a path through records alone. -/
def descend? : Value → Path → Option Value
  | v, [] => some v
  | v, segment :: rest => (v.get? segment).bind fun child => child.descend? rest

end Value

namespace Record

/-- All values at a path. -/
def reach (r : Record) (path : Path) : List Value :=
  match path with
  | [] => []
  | segment :: rest => Value.reachField r segment rest

/-- The first value at a path that is not null. -/
def pick? (r : Record) (path : Path) : Option Value := (reach r path).find? (· ≠ .null)

/-- The value at a path that meets no list. -/
def descend? (r : Record) (path : Path) : Option Value :=
  if path = [] then none else Value.descend? (.obj r) path

end Record

end RecordQuery
