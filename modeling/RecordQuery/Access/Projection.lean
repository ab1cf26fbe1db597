import RecordQuery.Access.Permission
import RecordQuery.Filter.Compile
import RecordQuery.Store.Projection

/-!
What a caller may see of a record: the store's projection, the conditions that single fields depend
on, and the helper fields fetched for those conditions alone.
-/

namespace RecordQuery

/-- A condition on one record. Evaluation fails with a term and a reason. -/
structure ConditionError where
  term : String
  reason : String
  deriving DecidableEq, Repr

namespace ConditionError

def message (e : ConditionError) : String := "Condition on [" ++ e.term ++ "] failed: " ++ e.reason

end ConditionError

abbrev RecordTest := Record → Except ConditionError Bool

/-- The fields a caller sees of each record. -/
structure AccessProjection where
  projection : Projection
  /-- Fields that stay only where their test holds, in ascending order. -/
  conditions : Fields RecordTest
  /-- Fields fetched only so that tests can be evaluated. -/
  helpers : NameSet

namespace AccessProjection

/-- The fields of a record whose test fails; all tests see the record unmasked. -/
def denied (record : Record) : Fields RecordTest → Except ConditionError (List String)
  | [] => .ok []
  | (field, test) :: rest =>
    if Fields.contains record field then do
      let holds ← test record
      let others ← denied record rest
      return if holds then others else field :: others
    else denied record rest

def mask (a : AccessProjection) (record : Record) : Except ConditionError Record := do
  let fields ← denied record a.conditions
  return fields.foldl Fields.erase record

def stripHelpers (a : AccessProjection) (record : Record) : Record :=
  a.helpers.foldl Fields.erase record

end AccessProjection

namespace Access

/-- Paths that share their first segment collapse into it; a path alone in its group stays. -/
def clearCollisions (paths : NameSet) : NameSet :=
  let nonempty := paths.filter (· ≠ "")
  NameSet.ofList (nonempty.map fun path =>
    if (nonempty.filter fun other => Path.root other = Path.root path).length = 1 then path
    else Path.root path)

/-- A readable field with the condition it depends on. -/
structure ConditionedField where
  name : String
  test : RecordTest
  /-- The field the condition looks at. -/
  root : String

/-- The readable fields of a document with a condition, compiled. -/
def conditionedFields (profile : Profile) (document : DocumentType) (ctx : FilterContext) :
    List String → Except CompileError (List ConditionedField)
  | [] => .ok []
  | name :: rest =>
    let permission := profile.field name
    match permission.allowed.read, permission.conditions.read with
    | true, some c => do
      let compiled ← c.compile ctx document
      let p := compiled.toPredicate
      let others ← conditionedFields profile document ctx rest
      return ⟨name, fun record => .ok (p.holds record), Path.root compiled.term⟩ :: others
    | _, _ => conditionedFields profile document ctx rest

/-- What has been decided so far: the paths to include or exclude, the helpers among them, and the
conditions that apply. -/
structure Selection where
  paths : NameSet
  helpers : NameSet
  conditions : Fields RecordTest

/-- With a list of fields, a condition on a field in it fetches the field it looks at. -/
def addToList (s : Selection) (field : ConditionedField) : Selection :=
  if s.paths.any fun path => Path.root path = field.name then
    let covered := field.root = "_id" || s.paths.any fun path => Path.root path = field.root
    { paths := if covered then s.paths else NameSet.insert field.root s.paths
      helpers := if covered then s.helpers else NameSet.insert field.root s.helpers
      conditions := s.conditions ++ [(field.name, field.test)] }
  else s

/-- Without a list, a condition brings back an excluded field it looks at. -/
def addToAll (s : Selection) (field : ConditionedField) : Selection :=
  if s.paths.contains field.name then s
  else
    let excluded := field.root ≠ "_id" && s.paths.contains field.root
    { paths := if excluded then s.paths.filter (· ≠ field.root) else s.paths
      helpers := if excluded then NameSet.insert field.root s.helpers else s.helpers
      conditions := s.conditions ++ [(field.name, field.test)] }

/-- What a caller with a profile sees of the requested paths, or of everything if none are given. -/
def project (profile : Profile) (document : DocumentType) (requested : NameSet)
    (ctx : FilterContext) : Except CompileError AccessProjection := do
  let names := Fields.names document.fields
  let unreadable := names.filter fun name => !(profile.field name).allowed.read
  let conditioned ← conditionedFields profile document ctx names
  if requested.isEmpty then
    let s := conditioned.foldl addToAll ⟨NameSet.ofList unreadable, [], []⟩
    return ⟨if s.paths.isEmpty then .all else .except s.paths, s.conditions, s.helpers⟩
  else
    let allowed := requested.filter fun path => !unreadable.contains (Path.root path)
    let s := conditioned.foldl addToList ⟨allowed, [], []⟩
    return ⟨.only (clearCollisions s.paths), s.conditions, s.helpers⟩

end Access

end RecordQuery
