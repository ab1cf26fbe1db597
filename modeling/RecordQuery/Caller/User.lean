import RecordQuery.Value.Path
import RecordQuery.Value.Shape

/-!
Callers: who they are, the groups they belong to and the profiles granted to them.
-/

namespace RecordQuery

/-- What a caller is granted on a document. -/
inductive Grant
  /-- `false` denies, `true` falls back to the defaults. -/
  | flag (allowed : Bool)
  | profile (name : String)
  | profiles (names : List String)
  deriving DecidableEq, Repr

namespace Grant

def names : Grant → List String
  | flag _ => []
  | profile name => [name]
  | profiles names => names

def ofValue? : Value → Option Grant
  | .bool b => some (flag b)
  | .str s => some (profile s)
  | v => (Shape.list? Value.asStr? v).map profiles

def toValue : Grant → Value
  | flag b => .bool b
  | profile name => .str name
  | profiles names => .arr (names.map .str)

end Grant

/-- A caller, with the record that attributes are looked up in. -/
structure User where
  id : String
  group : Option String
  groups : List String
  access : Fields Grant
  locale : Option String
  record : Record
  deriving Inhabited

inductive UserError
  | missingId
  | invalidAccess

namespace UserError

def message : UserError → String
  | missingId => "missing _id"
  | invalidAccess => "invalid access map: malformed grant"

end UserError

namespace User

def new (id : String) : User := ⟨id, none, [], [], none, [("_id", .str id)]⟩

/-- The caller of a user record. -/
def ofRecord (r : Record) : Except UserError User := do
  let id ← match (Fields.get? r "_id").bind Value.asStr? with
    | some id => .ok id
    | none => .error .missingId
  let access ← match Fields.get? r "access" with
    | none => .ok []
    | some v =>
      match Shape.table? Grant.ofValue? v with
      | some table => .ok table
      | none => .error UserError.invalidAccess
  return {
    id
    group := (Record.descend? r ["group", "_id"]).bind Value.asStr?
    groups := (((Fields.get? r "groups").bind Value.asList?).getD []).filterMap fun g =>
      (g.get? "_id").bind Value.asStr?
    access
    locale := (Fields.get? r "locale").bind Value.asStr?
    record := r }

def withGroup (u : User) (group : String) : User :=
  { u with
    group := some group
    record := Fields.insert u.record "group" (.obj [("_id", .str group)]) }

def withGroups (u : User) (groups : List String) : User :=
  { u with
    groups
    record := Fields.insert u.record "groups" (.arr (groups.map fun g => .obj [("_id", .str g)])) }

def withGrant (u : User) (document : String) (grant : Grant) : User :=
  { u with access := Fields.insert u.access document grant }

def withAttribute (u : User) (name : String) (v : Value) : User :=
  { u with record := Fields.insert u.record name v }

/-- An attribute of the user record. -/
def lookup? (u : User) (path : String) : Option Value := Record.descend? u.record (Path.ofText path)

/-- The main group before the others. -/
def allGroups (u : User) : List String := u.group.toList ++ u.groups

end User

end RecordQuery
