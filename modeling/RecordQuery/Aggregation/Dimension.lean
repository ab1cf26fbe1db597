import RecordQuery.Schema.Registry
import RecordQuery.Value.Path

/-!
The field that a path ends in. A path goes on behind a lookup in the document it refers to, and
behind a compound field in its parts.
-/

namespace RecordQuery

namespace Field

/-- Parts of a compound type, fetched in place of the whole. -/
def partsOf (type : String) : List String :=
  match type with
  | "address" =>
    ["city", "state", "country", "district", "place", "number", "postalCode", "complement",
      "placeType"]
  | "money" => ["value", "currency"]
  | "personName" => ["full", "first", "last"]
  | "phone" => ["phoneNumber", "countryCode"]
  | "email" => ["address"]
  | _ => []

end Field

/-- A path as far as it has been followed. -/
structure ResolvedPath where
  /-- Labels on the way, the root's first. -/
  labels : List String
  type : String
  /-- The last declared field on the way. -/
  field : Field

namespace ResolvedPath

def label (r : ResolvedPath) : String := " > ".intercalate r.labels

/-- Behind a lookup a segment is a field of its document; an unknown one is a text that labels
itself. The value of an amount is a currency and its other parts are texts; parts of other fields
are of the field's own type. -/
def step (registry : Registry) (language : String) (r : ResolvedPath) (segment : String) :
    ResolvedPath :=
  if r.field.isLookup then
    match (r.field.document.bind registry.document?).bind (·.field? segment) with
    | some child => ⟨r.labels ++ [child.labelFor language], child.type, child⟩
    | none => ⟨r.labels ++ [segment], "text", r.field⟩
  else if r.field.type = "money" then
    { r with type := if segment = "value" then "currency" else "text" }
  else r

end ResolvedPath

namespace DocumentType

/-- Follows a path; `none` if its root is not declared. -/
def resolve? (d : DocumentType) (registry : Registry) (path language : String) :
    Option ResolvedPath :=
  match Path.ofText path with
  | [] => none
  | root :: rest =>
    (d.field? root).map fun f =>
      rest.foldl (ResolvedPath.step registry language) ⟨[f.labelFor language], f.type, f⟩

end DocumentType

end RecordQuery
