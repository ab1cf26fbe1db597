import RecordQuery.Value.Basic
import RecordQuery.Calendar.Instant

/-!
Dates inside values: a record whose only entry is `$date`, with a written instant or milliseconds.
Normalization replaces each by its canonical text.
-/

namespace RecordQuery

namespace Value

def dateName : String := "$date"

/-- The instant of a native date. -/
def asDate? : Value → Option Instant
  | obj [(name, v)] =>
    if name = dateName then
      match v with
      | str s => Instant.read? s
      | v => v.asInt?.bind Instant.ofMillis?
    else none
  | _ => none

def isDate (v : Value) : Bool := v.asDate?.isSome

/-- The canonical native date of an instant, to the millisecond. -/
def ofDate (t : Instant) : Value := obj [(dateName, str t.text)]

mutual
/-- Every native date becomes its canonical text; nothing inside one is looked at. -/
def normalizeDates : Value → Value
  | null => null
  | bool b => bool b
  | num n => num n
  | str s => str s
  | arr items => arr (normalizeDatesList items)
  | obj fields =>
    match asDate? (obj fields) with
    | some t => str t.text
    | none => obj (normalizeDatesFields fields)

def normalizeDatesList : List Value → List Value
  | [] => []
  | v :: rest => normalizeDates v :: normalizeDatesList rest

def normalizeDatesFields : List (String × Value) → List (String × Value)
  | [] => []
  | (name, v) :: rest => (name, normalizeDates v) :: normalizeDatesFields rest
end

end Value

namespace Record

/-- The record itself is no date; its values may be. -/
def normalizeDates (r : Record) : Record := Value.normalizeDatesFields r

end Record

end RecordQuery
