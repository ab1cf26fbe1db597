import RecordQuery.Filter.Compile
import RecordQuery.Value.Names

/-!
What a read asks for: a filter, an order, a list of fields and a page.
-/

namespace RecordQuery

/-- A lookup and the fields of the referenced record to merge into it. -/
structure DetailLookup where
  field : String
  document : String
  /-- A dotted field merges its whole first segment. -/
  details : List String

structure FindRequest where
  document : String
  token : Option String
  filter : Option Filter
  sort : Option Value
  /-- Names between commas. -/
  fields : Option String
  limit : Option Int
  start : Option Int
  withDetails : Bool
  datesToText : Bool
  displayName : Option String
  displayType : Option String
  withTotal : Bool
  /-- Lookups to fill in any case. -/
  lookups : List DetailLookup

/-- Limits of every read. -/
structure QuerySettings where
  /-- Applies when a request gives no usable limit. -/
  defaultLimit : Nat
  /-- Above it, results are in the order of their identifiers. -/
  largeResult : Nat

namespace QuerySettings

def standard : QuerySettings := ⟨50, 1000⟩

end QuerySettings

namespace FindRequest

def new (document : String) : FindRequest where
  document
  token := none
  filter := none
  sort := none
  fields := none
  limit := none
  start := none
  withDetails := false
  datesToText := true
  displayName := none
  displayType := none
  withTotal := false
  lookups := []

/-- Names between commas, without blanks around them; empty ones do not count. -/
def fieldSet (fields : Option String) : NameSet :=
  match fields with
  | none => []
  | some list => NameSet.ofList (((Text.split ',' list).map Text.trim).filter (· ≠ ""))

/-- A limit that is not positive is no limit. -/
def effectiveLimit (limit : Option Int) (default : Nat) : Nat :=
  match limit with
  | some n => if 0 < n then n.toNat else default
  | none => default

def effectiveSkip (start : Option Int) : Nat :=
  match start with
  | some n => n.toNat
  | none => 0

end FindRequest

namespace SortSpec

/-- A text holds the value that it spells, to any depth; each text is shorter than the one that
spells it, so the length of the first bounds the number of steps. -/
def unwrap? : Nat → Value → Option Value
  | 0, _ => none
  | n + 1, .str s => (Value.read? s).bind (unwrap? n)
  | _ + 1, v => some v

def direction (v : Value) : Except CompileError Direction :=
  match v with
  | .num n =>
    if n.orderKey = (Number.int 1).orderKey then .ok .ascending
    else if n.orderKey = (Number.int (-1)).orderKey then .ok .descending
    else .error (.invalidSort (.unknownDirection v))
  | .str s =>
    if s.toLower = "asc" then .ok .ascending
    else if s.toLower = "desc" then .ok .descending
    else .error (.invalidSort (.unknownDirection v))
  | _ => .error (.invalidSort (.unknownDirection v))

/-- An entry of a list: a property or a term, ascending unless it says otherwise. -/
def entry (v : Value) : Except CompileError SortKey := do
  match ((v.get? "property").or (v.get? "term")).bind Value.asStr? with
  | none => .error (.invalidSort .entryWithoutTerm)
  | some field =>
    match v.get? "direction" with
    | none | some .null => return ⟨field, .ascending⟩
    | some d => return ⟨field, ← direction d⟩

def entries : List Value → Except CompileError (List SortKey)
  | [] => .ok []
  | v :: rest => do
    let key ← entry v
    let others ← entries rest
    return key :: others

def namedEntries : Fields Value → Except CompileError (List SortKey)
  | [] => .ok []
  | (field, d) :: rest => do
    let key ← direction d
    let others ← namedEntries rest
    return ⟨field, key⟩ :: others

/-- Keys as they are written. -/
def keys : Value → Except CompileError (List SortKey)
  | .null => .ok []
  | .arr items => entries items
  | .obj fields => namedEntries fields
  | v => .error (.invalidSort (.unexpected v))

/-- Amounts sort by their value and person names by the full name. -/
def sortField (document : DocumentType) (field : String) : String :=
  match (document.field? field).map (·.type) with
  | some "money" => field ++ ".value"
  | some "personName" => field ++ ".full"
  | _ => field

/-- The sort keys of a specification; the text score is no field. -/
def read (v : Value) (document : DocumentType) : Except CompileError (List SortKey) := do
  let steps := match v with
    | .str s => s.length + 2
    | _ => 1
  match unwrap? steps v with
  | none => .error (.invalidSort .notReadable)
  | some spec => do
    let found ← keys spec
    return (found.filter fun key => key.field ≠ "$textScore").map fun key =>
      { key with field := sortField document key.field }

end SortSpec

end RecordQuery
