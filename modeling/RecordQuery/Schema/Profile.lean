import RecordQuery.Filter.Syntax

/-!
Access profiles: what a caller may do with a document and with each of its fields.
-/

namespace RecordQuery

/-- A rule of one action on one field. -/
structure AccessRule where
  allow : Option Bool
  /-- Records on which the action is allowed. -/
  condition : Option Condition
  deriving Inhabited

structure FieldRules where
  read : Option AccessRule
  update : Option AccessRule
  create : Option AccessRule
  delete : Option AccessRule
  deriving Inhabited

/-- The four actions. -/
structure Permissions where
  read : Bool
  update : Bool
  create : Bool
  delete : Bool
  deriving DecidableEq, Repr, Inhabited

/-- What one profile allows on one document. -/
structure Profile where
  document : Permissions
  /-- What holds for fields without a rule. -/
  fieldDefaults : Permissions
  fields : Fields FieldRules
  /-- Records that may be read at all. -/
  readFilter : Option Filter
  deriving Inhabited

/-- Default filter of a saved view. -/
structure Display where
  filter : Option Filter
  deriving Inhabited

namespace AccessRule

def ofValue? (v : Value) : Option AccessRule := do
  match ← Shape.slots? [["allow"], ["condition"]] v with
  | [allow, condition] =>
    return ⟨← Shape.fill none (Shape.optional Value.asBool?) allow,
      ← Shape.fill none (Shape.optional Condition.ofValue?) condition⟩
  | _ => none

def toValue (r : AccessRule) : Value :=
  .obj (Shape.present [("allow", r.allow.map .bool), ("condition", r.condition.map (·.toValue))])

end AccessRule

namespace FieldRules

def ofValue? (v : Value) : Option FieldRules := do
  let rule := Shape.fill none (Shape.optional AccessRule.ofValue?)
  match ← Shape.slots? [["READ"], ["UPDATE"], ["CREATE"], ["DELETE"]] v with
  | [read, update, create, delete] =>
    return ⟨← rule read, ← rule update, ← rule create, ← rule delete⟩
  | _ => none

def toValue (r : FieldRules) : Value :=
  .obj (Shape.present
    [("READ", r.read.map (·.toValue)), ("UPDATE", r.update.map (·.toValue)),
      ("CREATE", r.create.map (·.toValue)), ("DELETE", r.delete.map (·.toValue))])

end FieldRules

namespace Permissions

def none : Permissions := ⟨false, false, false, false⟩

def slots : List Shape.Slot := [["isReadable"], ["isUpdatable"], ["isCreatable"], ["isDeletable"]]

def ofSlots? (read update create delete : Option Value) : Option Permissions := do
  return ⟨← Shape.flag read, ← Shape.flag update, ← Shape.flag create, ← Shape.flag delete⟩

def ofValue? (v : Value) : Option Permissions := do
  match ← Shape.slots? slots v with
  | [read, update, create, delete] => ofSlots? read update create delete
  | _ => failure

def entries (p : Permissions) : Fields Value :=
  [("isReadable", .bool p.read), ("isUpdatable", .bool p.update), ("isCreatable", .bool p.create),
    ("isDeletable", .bool p.delete)]

end Permissions

namespace Profile

def ofValue? (v : Value) : Option Profile := do
  match ← Shape.slots? (Permissions.slots ++ [["fieldDefaults"], ["fields"], ["readFilter"]]) v with
  | [read, update, create, delete, defaults, fields, filter] =>
    return {
      document := ← Permissions.ofSlots? read update create delete
      fieldDefaults := ← Shape.fill Permissions.none Permissions.ofValue? defaults
      fields := ← Shape.fill [] (Shape.table? FieldRules.ofValue?) fields
      readFilter := ← Shape.fill none (Shape.optional Filter.ofValue?) filter }
  | _ => none

def toValue (p : Profile) : Value :=
  .obj (p.document.entries ++ Shape.present
    [("fieldDefaults", some (.obj p.fieldDefaults.entries)),
      ("fields", some (.obj (p.fields.map fun (name, r) => (name, r.toValue)))),
      ("readFilter", p.readFilter.map (·.toValue))])

end Profile

namespace Display

def ofValue? (v : Value) : Option Display := do
  match ← Shape.slots? [["filter"]] v with
  | [filter] => return ⟨← Shape.fill none (Shape.optional Filter.ofValue?) filter⟩
  | _ => none

/-- A missing filter is written as null. -/
def toValue (d : Display) : Value :=
  .obj [("filter", match d.filter with
    | some f => f.toValue
    | none => .null)]

end Display

end RecordQuery
