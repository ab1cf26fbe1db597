import RecordQuery.Value.Shape

/-!
Document types, their fields and the labels of both.
-/

namespace RecordQuery

/-- Texts by language, in ascending order of the language. -/
abbrev Labels := Fields String

namespace Labels

/-- The text in a language, else in English, else in any language. -/
def text? (labels : Labels) (language : String) : Option String :=
  (Fields.get? labels language).or ((Fields.get? labels "en").or (labels.head?.map (·.2)))

def ofValue? : Value → Option Labels := Shape.table? Value.asStr?

end Labels

/-- A field of a document type. -/
structure Field where
  name : String
  type : String
  /-- The document that a lookup refers to. -/
  document : Option String
  isList : Bool
  label : Labels
  /-- Choices of a picklist with their labels. -/
  options : Fields Labels
  /-- Fields copied from the referenced record into a lookup. -/
  descriptionFields : List String
  /-- Fields added to a lookup when details are asked for. -/
  detailFields : List String
  deriving Inhabited

/-- A document type; its fields are in ascending order of their names. -/
structure DocumentType where
  name : String
  label : Labels
  fields : Fields Field
  deriving Inhabited

namespace Field

def isLookup (f : Field) : Bool := f.type = "lookup"

/-- The label in a language, or the name of a field without labels. -/
def labelFor (f : Field) (language : String) : String := (f.label.text? language).getD f.name

def ofValue? (v : Value) : Option Field := do
  match ← Shape.slots? [["name"], ["type"], ["document"], ["isList"], ["label"], ["options"],
      ["descriptionFields"], ["detailFields"]] v with
  | [name, some type, document, isList, label, options, description, detail] =>
    return {
      name := ← Shape.text name
      type := ← type.asStr?
      document := ← Shape.fill none (Shape.optional Value.asStr?) document
      isList := ← Shape.flag isList
      label := ← Shape.fill [] Labels.ofValue? label
      options := ← Shape.fill [] (Shape.table? Labels.ofValue?) options
      descriptionFields := ← Shape.fill [] (Shape.list? Value.asStr?) description
      detailFields := ← Shape.fill [] (Shape.list? Value.asStr?) detail }
  | _ => none

def toValue (f : Field) : Value :=
  .obj (Shape.present
    [("name", some (.str f.name)), ("type", some (.str f.type)), ("document", f.document.map .str),
      ("isList", some (.bool f.isList)), ("label", some (Shape.textTable f.label)),
      ("options", if f.options.isEmpty then none else
        some (.obj (f.options.map fun (name, labels) => (name, Shape.textTable labels)))),
      ("descriptionFields", if f.descriptionFields.isEmpty then none else
        some (.arr (f.descriptionFields.map .str))),
      ("detailFields", if f.detailFields.isEmpty then none else
        some (.arr (f.detailFields.map .str)))])

end Field

namespace DocumentType

def field? (d : DocumentType) (name : String) : Option Field := Fields.get? d.fields name

/-- The type under a name of its own; fields without a name take the one they are kept under. -/
def named (d : DocumentType) (name : String) : DocumentType :=
  { d with
    name
    fields := d.fields.map fun (key, f) =>
      (key, if f.name = "" then { f with name := key } else f) }

def ofValue? (v : Value) : Option DocumentType := do
  match ← Shape.slots? [["name", "_id"], ["label"], ["fields"]] v with
  | [name, label, fields] =>
    return ⟨← Shape.text name, ← Shape.fill [] Labels.ofValue? label,
      ← Shape.fill [] (Shape.table? Field.ofValue?) fields⟩
  | _ => none

def toValue (d : DocumentType) : Value :=
  .obj [("name", .str d.name), ("label", Shape.textTable d.label),
    ("fields", .obj (d.fields.map fun (name, f) => (name, f.toValue)))]

end DocumentType

end RecordQuery
