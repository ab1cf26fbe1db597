import RecordQuery.Caller.User
import RecordQuery.Schema.Registry

/-!
The profile that applies to a caller and what it allows on each field. A profile of the document
itself goes before a default one, and earlier names before later ones.
-/

namespace RecordQuery

namespace Access

/-- The grant that takes effect on a document; `none` if it is denied. -/
def effectiveGrant? (document : String) (user : User) : Option Grant :=
  let fallback := (Fields.get? user.access "defaults").getD (.profile "Default")
  match (Fields.get? user.access document).getD fallback with
  | .flag false => none
  | .flag true => some fallback
  | grant => some grant

def profileKey (document name : String) : String := document ++ ":access:" ++ name

def profileFor? (document : String) (user : User) (registry : Registry) : Option Profile := do
  let grant ← effectiveGrant? document user
  (grant.names.findSome? fun name => registry.profile? (profileKey document name)).or
    (grant.names.findSome? fun name => registry.profile? (profileKey "Default" name))

end Access

/-- Conditions under which an action on a field is allowed. -/
structure FieldConditions where
  read : Option Condition
  update : Option Condition
  create : Option Condition

/-- What a profile allows on one field. -/
structure FieldPermission where
  allowed : Permissions
  conditions : FieldConditions

namespace Profile

/-- A field needs both the document's permission and its own. -/
def field (p : Profile) (name : String) : FieldPermission :=
  let rules := Fields.get? p.fields name
  let allow (rule : Option AccessRule) (default : Bool) : Bool := (rule.bind (·.allow)).getD default
  let read := rules.bind (·.read)
  let update := rules.bind (·.update)
  let create := rules.bind (·.create)
  let delete := rules.bind (·.delete)
  { allowed := {
      read := p.document.read && allow read p.fieldDefaults.read
      update := p.document.update && allow update p.fieldDefaults.update
      create := p.document.create && allow create p.fieldDefaults.create
      delete := p.document.delete && allow delete p.fieldDefaults.delete }
    conditions := {
      read := read.bind (·.condition)
      update := update.bind (·.condition)
      create := create.bind (·.condition) } }

end Profile

end RecordQuery
