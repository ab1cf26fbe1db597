import RecordQuery.Store.Cursor
import RecordQuery.Value.Reader

/-!
Stores of records. A store answers three questions about a document; the memory store answers them
from lists of records in insertion order.
-/

namespace RecordQuery

/-- What a cursor hands out, one after the other. -/
abbrev Cursor := List (Except StoreError Record)

/-- Read access to documents. -/
structure Store where
  find : String → FindPlan → Except StoreError Cursor
  count : String → Value → Except StoreError Nat
  findById : String → String → Except StoreError (Option Record)

/-- Records by document, in insertion order. -/
abbrev Memory := Fields (List Record)

namespace Memory

def records (m : Memory) (document : String) : List Record := (Fields.get? m document).getD []

def append (m : Memory) (document : String) (more : List Record) : Memory :=
  Fields.insert m document (m.records document ++ more)

/-- The records of a document that satisfy a predicate. -/
def matching (m : Memory) (document : String) (p : Predicate) : List Record :=
  (m.records document).filter p.holds

/-- The records a plan selects, before projection. -/
def select (m : Memory) (document : String) (plan : FindPlan) (p : Predicate) : List Record :=
  let found := m.matching document p
  let ordered := if plan.sort.isEmpty then found else Record.sort plan.sort found
  let rest := ordered.drop plan.skip
  match plan.limit with
  | some limit => rest.take limit
  | none => rest

/-- Opens a cursor. Without sort keys the records are matched one by one as they are read. -/
def openCursor (m : Memory) (document : String) (plan : FindPlan) (p : Predicate) :
    MemoryCursor where
  plan
  predicate := p
  left := if plan.sort.isEmpty then m.records document
    else Record.sort plan.sort (m.matching document p)
  skipped := 0
  yielded := 0

def find (m : Memory) (document : String) (plan : FindPlan) : Except StoreError Cursor := do
  let p ← Query.read plan.query
  return (m.openCursor document plan p).toList.map .ok

def count (m : Memory) (document : String) (query : Value) : Except StoreError Nat := do
  let p ← Query.read query
  return (m.matching document p).length

def findById (m : Memory) (document id : String) : Option Record :=
  (m.records document).find? fun r => Fields.get? r "_id" = some (.str id)

def store (m : Memory) : Store where
  find := m.find
  count := m.count
  findById document id := .ok (m.findById document id)

/-- The records of a list; anything else in it is refused. -/
def readRecords (document : String) : List Value → Except StoreError (List Record)
  | [] => .ok []
  | .obj fields :: rest => (readRecords document rest).map (fields :: ·)
  | v :: _ => .error (.strayRecord document v)

def readDocuments : Fields Value → Except StoreError Memory
  | [] => .ok []
  | (document, v) :: rest =>
    match v with
    | .arr items => do
      let records ← readRecords document items
      let others ← readDocuments rest
      return (document, records) :: others
    | _ => .error .malformedSeed

/-- Lists of records by document. The shape is checked before the records. -/
def ofText (s : String) : Except StoreError Memory :=
  match Value.read? s with
  | some (.obj fields) =>
    if fields.all fun entry => entry.2.asList?.isSome then readDocuments fields
    else .error .malformedSeed
  | _ => .error .malformedSeed

end Memory

end RecordQuery
