import RecordQuery.Text.Blank
import RecordQuery.Value.NativeDate
import RecordQuery.Value.Path

/-!
What an aggregation reads from a value: a number for a measure, a caption for a dimension, an
instant for a period.
-/

namespace RecordQuery

namespace Value

mutual
/-- Numbers, written numbers, flags as one and zero, and the amount of a sum of money. -/
def reading? : Value → Option Float
  | num n => some n.toFloat
  | str s =>
    (Decimal.readFloat? (Text.trimChars s.toList)).bind fun x =>
      if Binary64.isFinite x then some x else none
  | bool b => some (if b then 1 else 0)
  | obj fields => amountReading? fields
  | _ => none

def amountReading? : List (String × Value) → Option Float
  | [] => none
  | (name, v) :: rest => if name = "value" then reading? v else amountReading? rest
end

/-- An instant, written as a text or as a native date. -/
def instant? : Value → Option Instant
  | str s => Instant.read? s
  | v => v.asDate?

/-- Names under which a record holds what it is called, in order of preference. -/
def captionNames : List String := ["full", "name", "value", "address", "phoneNumber", "_id"]

mutual
/-- Plain text of a value. A list shows its first item, a record what it is called. -/
def caption : Value → String
  | null => ""
  | bool b => if b then "true" else "false"
  | num n => n.text
  | str s => s
  | arr items => captionOfFirst items
  | obj fields =>
    match asDate? (obj fields) with
    | some t => t.text
    | none => (captionNames.findSome? fun name => captionAt? fields name).getD ""

def captionOfFirst : List Value → String
  | [] => ""
  | v :: _ => caption v

/-- The caption of an entry that is not null. -/
def captionAt? : List (String × Value) → String → Option String
  | [], _ => none
  | (name, v) :: rest, wanted =>
    if name = wanted then if v.isNull then none else some (caption v) else captionAt? rest wanted
end

end Value

namespace Record

/-- The reading of the first value at a path that is not null. -/
def reading? (r : Record) (path : String) : Option Float :=
  (pick? r (Path.ofText path)).bind Value.reading?

end Record

end RecordQuery
