import RecordQuery.Aggregation.Dimension
import RecordQuery.Aggregation.Lookup
import RecordQuery.Find.Request

/-!
What an aggregation fetches: for lookups the identifier and the wanted fields of the referenced
record, for compound fields their parts, and any other path as it stands.
-/

namespace RecordQuery

structure FieldPlan where
  paths : NameSet
  /-- By field in ascending order: the document and the wanted fields of its records. -/
  wanted : Fields (String × NameSet)

namespace FieldPlan

def empty : FieldPlan := ⟨[], []⟩

/-- What a path wants of the record that its root refers to: the rest of the path, or all fields
that describe the record. -/
def wantedBehind (f : Field) (path : String) : List String :=
  match Text.splitOnce? '.' path with
  | some (_, rest) => [rest]
  | none =>
    match LookupDisplay.ofField? f with
    | some d => d.simpleFields ++ d.nestedFields
    | none => []

def addLookup (plan : FieldPlan) (root : String) (f : Field) (path : String) : FieldPlan :=
  { paths := NameSet.insert (root ++ "._id") plan.paths
    wanted := match f.document with
      | none => plan.wanted
      | some document =>
        Fields.adjust root (fun before =>
          let (document, names) := before.getD (document, [])
          (document, NameSet.union names (wantedBehind f path))) plan.wanted }

/-- Adds the path of a dimension or a measure. -/
def add (document : DocumentType) (plan : FieldPlan) (path : String) : FieldPlan :=
  let root := Path.root path
  match document.field? root with
  | none => { plan with paths := NameSet.insert path plan.paths }
  | some f =>
    if f.isLookup then plan.addLookup root f path
    else
      let parts := Field.partsOf f.type
      if path = root ∧ parts ≠ [] then
        { plan with paths := NameSet.union plan.paths (parts.map fun part => root ++ "." ++ part) }
      else { plan with paths := NameSet.insert path plan.paths }

def ofPaths (document : DocumentType) (paths : List String) : FieldPlan :=
  paths.foldl (add document) empty

/-- The paths between commas. -/
def fieldList (plan : FieldPlan) : String := ",".intercalate plan.paths

def lookups (plan : FieldPlan) : List DetailLookup :=
  plan.wanted.map fun (field, document, names) => ⟨field, document, names⟩

end FieldPlan

end RecordQuery
