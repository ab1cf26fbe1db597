import RecordQuery.Aggregation.Reading
import RecordQuery.Pivot.Config
import RecordQuery.Schema.Field
import RecordQuery.Text.Replace

/-!
How a referenced record is keyed and labelled: by its first described field, with the others behind
it in parentheses.
-/

namespace RecordQuery

namespace LookupDisplay

/-- The place that a field's text takes in a pattern. -/
def placeholder (field : String) : String := "\x7b" ++ field ++ "\x7d"

/-- One place for the first field; the others follow it in parentheses. -/
def patternOf : List String → String
  | [] => ""
  | [field] => placeholder field
  | field :: rest => placeholder field ++ " (" ++ " - ".intercalate (rest.map placeholder) ++ ")"

/-- The display of a lookup with a document. Without described fields it is the name; fields with a
dot are fetched but not shown. -/
def ofField? (f : Field) : Option LookupDisplay :=
  if f.isLookup then
    f.document.map fun document =>
      let described := if f.descriptionFields.isEmpty then ["name"] else f.descriptionFields
      let simple := described.filter fun name => !name.toList.contains '.'
      { document
        displayField := simple.headD "name"
        pattern := patternOf simple
        simpleFields := simple
        nestedFields := described.filter fun name => name.toList.contains '.' }
  else none

def fieldText (referenced : Record) (field : String) : String :=
  match Fields.get? referenced field with
  | some v => v.caption
  | none => ""

/-- Places are filled one field after the other, so a text that looks like the place of a later
field is filled again. -/
def fillPattern (d : LookupDisplay) (referenced : Record) : String :=
  d.simpleFields.foldl
    (fun label field => Text.replace (placeholder field) (fieldText referenced field) label)
    d.pattern

/-- Key and label of a value of the lookup. -/
def keyAndLabel (d : LookupDisplay) : Value → String × String
  | .obj referenced =>
    let key := fieldText referenced d.displayField
    (key, if d.pattern = "" then key else d.fillPattern referenced)
  | v => (v.caption, v.caption)

end LookupDisplay

end RecordQuery
