import RecordQuery.Schema.Field
import RecordQuery.Schema.Profile
import RecordQuery.Value.Reader

/-!
The registry of document types, access profiles and views. Profiles are kept under
`document:access:name`, views under `document:type:name`.
-/

namespace RecordQuery

structure Registry where
  documents : Fields DocumentType
  profiles : Fields Profile
  displays : Fields Display
  deriving Inhabited

inductive RegistryError
  | malformed
  | unreadable (reason : String)
  /-- A lookup refers to a document that is not registered. -/
  | danglingReference (document field target : String)

namespace RegistryError

def kind : RegistryError → String
  | malformed => "Parse"
  | unreadable _ => "Io"
  | danglingReference _ _ _ => "DanglingReference"

def message : RegistryError → String
  | malformed => "Invalid metadata JSON: malformed registry"
  | unreadable reason => "Failed to read metadata: " ++ reason
  | danglingReference document field target =>
    "Field [" ++ field ++ "] of [" ++ document ++ "] references unknown document [" ++ target ++ "]"

end RegistryError

namespace Registry

def empty : Registry := ⟨[], [], []⟩

def document? (r : Registry) (name : String) : Option DocumentType := Fields.get? r.documents name

def profile? (r : Registry) (key : String) : Option Profile := Fields.get? r.profiles key

def display? (r : Registry) (document type name : String) : Option Display :=
  Fields.get? r.displays (document ++ ":" ++ type ++ ":" ++ name)

def insertDocument (r : Registry) (name : String) (d : DocumentType) : Registry :=
  { r with documents := Fields.insert r.documents name (d.named name) }

def insertProfile (r : Registry) (key : String) (p : Profile) : Registry :=
  { r with profiles := Fields.insert r.profiles key p }

def insertDisplay (r : Registry) (key : String) (d : Display) : Registry :=
  { r with displays := Fields.insert r.displays key d }

def ofValue? (v : Value) : Option Registry := do
  match ← Shape.slots? [["metas"], ["access"], ["displays"]] v with
  | [documents, profiles, displays] =>
    let documents ← Shape.fill [] (Shape.table? DocumentType.ofValue?) documents
    return ⟨documents.map fun (name, d) => (name, d.named name),
      ← Shape.fill [] (Shape.table? Profile.ofValue?) profiles,
      ← Shape.fill [] (Shape.table? Display.ofValue?) displays⟩
  | _ => none

def ofText (s : String) : Except RegistryError Registry :=
  match (Value.readVerbatim? s).bind ofValue? with
  | some r => .ok r
  | none => .error .malformed

/-- The document a lookup refers to; one without a document refers to the empty name. -/
def target (f : Field) : String := f.document.getD ""

/-- The first lookup of a document whose target is not registered. -/
def dangling? (r : Registry) (d : DocumentType) : Option RegistryError :=
  d.fields.findSome? fun (_, f) =>
    if f.isLookup ∧ (r.document? (target f)).isNone then
      some (.danglingReference d.name f.name (target f))
    else none

/-- Every lookup refers to a registered document. -/
def validate (r : Registry) : Except RegistryError Unit :=
  match r.documents.findSome? fun entry => r.dangling? entry.2 with
  | some e => .error e
  | none => .ok ()

end Registry

end RecordQuery
