import RecordQuery.Value.Names
import RecordQuery.Value.Path

/-!
Which fields of a record a find returns. Paths descend through lists into the records they hold.
-/

namespace RecordQuery

inductive Projection
  | all
  /-- Only these paths; `_id` is always kept. -/
  | only (paths : NameSet)
  | except (paths : NameSet)
  deriving DecidableEq, Repr, Inhabited

namespace Value

mutual
/-- The part of a value that a path reaches, in its place. -/
def select? : Value → Path → Option Value
  | v, [] => some v
  | obj fields, segment :: rest =>
    (selectField? fields segment rest).map fun child => obj [(segment, child)]
  | arr items, segment :: rest => some (arr (selectRecords items (segment :: rest)))
  | _, _ :: _ => none

def selectField? : List (String × Value) → String → Path → Option Value
  | [], _, _ => none
  | (name, v) :: more, segment, rest =>
    if name = segment then select? v rest else selectField? more segment rest

def selectRecords : List Value → Path → List Value
  | [], _ => []
  | v :: more, path =>
    match v.isRecord, select? v path with
    | true, some part => part :: selectRecords more path
    | _, _ => selectRecords more path
end

mutual
/-- Records merge name by name and lists of one length item by item; else the newcomer stays. -/
def merge (old : Value) : Value → Value
  | obj new =>
    match old with
    | obj fields => obj (mergeFields fields new)
    | _ => obj new
  | arr new =>
    match old with
    | arr items => if items.length = new.length then arr (mergeItems items new) else arr new
    | _ => arr new
  | v => v

def mergeFields (old : List (String × Value)) : List (String × Value) → List (String × Value)
  | [] => old
  | (name, v) :: rest =>
    match Fields.get? old name with
    | some before => mergeFields (Fields.insert old name (merge before v)) rest
    | none => mergeFields (Fields.insert old name v) rest

def mergeItems (old : List Value) : List Value → List Value
  | [] => []
  | v :: rest =>
    match old with
    | [] => []
    | before :: more => merge before v :: mergeItems more rest
end

end Value

namespace Record

/-- The record without what a path reaches. -/
def remove : Path → Record → Record
  | [], r => r
  | [segment], r => Fields.erase r segment
  | segment :: rest, r =>
    r.map fun (name, v) =>
      if name = segment then
        (name, match v with
          | .obj child => .obj (remove rest child)
          | .arr items => .arr (items.map fun item =>
              match item with
              | .obj child => .obj (remove rest child)
              | other => other)
          | other => other)
      else (name, v)

end Record

namespace Projection

def paths : Projection → Option NameSet
  | all => none
  | only paths | except paths => some paths

/-- Adds what one path selects to a record under construction. -/
def addPath (source done : Record) (path : String) : Record :=
  match Path.ofText path with
  | [] => done
  | segment :: rest =>
    match Value.selectField? source segment rest with
    | some part => Value.mergeFields done [(segment, part)]
    | none => done

def apply : Projection → Record → Record
  | all, r => r
  | only paths, r =>
    let start : Record := match Fields.get? r "_id" with
      | some id => [("_id", id)]
      | none => []
    paths.foldl (addPath r) start
  | except paths, r => paths.foldl (fun done path => Record.remove (Path.ofText path) done) r

end Projection

end RecordQuery
