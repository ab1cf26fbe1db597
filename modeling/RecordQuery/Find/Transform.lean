import RecordQuery.Find.Request
import RecordQuery.QueryError
import RecordQuery.Store.Basic

/-!
Stages that every record passes on its way from the cursor to the caller. Masking comes first, so
that no later stage sees a denied field.
-/

namespace RecordQuery

/-- A named step on one record. -/
structure Stage where
  name : String
  apply : Record → Except StreamError Record

namespace Populate

/-- Copies the wanted parts of a referenced record into a lookup. -/
def copyDetails (referenced : Record) (details : List String) (target : Record) : Record :=
  details.foldl (fun done detail =>
    match Fields.get? referenced (Path.root detail) with
    | some v => Fields.insert done (Path.root detail) v
    | none => done) target

/-- Fills one lookup; without an identifier or a referenced record it stays as it is. -/
def fill (store : Store) (lookup : DetailLookup) (target : Record) : Except StreamError Record :=
  match Fields.get? target "_id" with
  | some (.str id) =>
    match store.findById lookup.document id with
    | .error e => .error (.populate lookup.field e.message)
    | .ok none => .ok target
    | .ok (some referenced) => .ok (copyDetails referenced lookup.details target)
  | _ => .ok target

/-- Records of a list are filled, its other items stay. -/
def fillEach (store : Store) (lookup : DetailLookup) : List Value → Except StreamError (List Value)
  | [] => .ok []
  | .obj target :: rest => do
    let filled ← fill store lookup target
    let others ← fillEach store lookup rest
    return .obj filled :: others
  | v :: rest => do
    let others ← fillEach store lookup rest
    return v :: others

def apply (store : Store) (lookup : DetailLookup) (record : Record) : Except StreamError Record :=
  match Fields.get? record lookup.field with
  | some (.obj target) => do
    let filled ← fill store lookup target
    return Fields.insert record lookup.field (.obj filled)
  | some (.arr items) => do
    let filled ← fillEach store lookup items
    return Fields.insert record lookup.field (.arr filled)
  | _ => .ok record

/-- The lookups of a document that name fields of their details. -/
def lookupsOf (document : DocumentType) : List DetailLookup :=
  document.fields.filterMap fun (name, field) =>
    if field.isLookup && !field.detailFields.isEmpty then
      field.document.map fun target => ⟨name, target, field.detailFields⟩
    else none

end Populate

namespace Stage

def mask (a : AccessProjection) : Stage :=
  ⟨"field_permission", fun record => (a.mask record).mapError .condition⟩

def stripHelpers (a : AccessProjection) : Stage :=
  ⟨"helper_field_strip", fun record => .ok (a.stripHelpers record)⟩

def populate (store : Store) (lookups : List DetailLookup) : Stage :=
  ⟨"populate", fun record => lookups.foldlM (fun r lookup => Populate.apply store lookup r) record⟩

def normalizeDates : Stage :=
  ⟨"date_normalization", fun record => .ok (Record.normalizeDates record)⟩

/-- The stages in turn; the first failure is the record's. -/
def run (stages : List Stage) (record : Record) : Except StreamError Record :=
  stages.foldlM (fun r stage => stage.apply r) record

end Stage

end RecordQuery
