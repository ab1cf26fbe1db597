import RecordQuery.Value.Basic

/-!
Reading settled structure out of values. A structure is a record with known names, each at most
once and the unknown ones passed over, or a list of its values in their declared order.
-/

namespace RecordQuery

namespace Shape

/-- Spellings of one declared entry. -/
abbrev Slot := List String

/-- How often one of a slot's spellings occurs. -/
def occurrences (slot : Slot) (fields : Fields Value) : Nat :=
  (fields.filter fun entry => slot.contains entry.1).length

def find? (slot : Slot) (fields : Fields Value) : Option Value :=
  (fields.find? fun entry => slot.contains entry.1).map (·.2)

/-- No declared entry is given twice. -/
def settled (slots : List Slot) (fields : Fields Value) : Bool :=
  slots.all fun slot => occurrences slot fields ≤ 1

/-- The value given for each slot, if any. -/
def slots? (slots : List Slot) : Value → Option (List (Option Value))
  | .obj fields =>
    if settled slots fields then some (slots.map fun slot => find? slot fields) else none
  | .arr items =>
    if items.length ≤ slots.length then
      some (items.map some ++ List.replicate (slots.length - items.length) none)
    else none
  | _ => none

/-- A slot left out has a default. -/
def fill {α : Type} (default : α) (read : Value → Option α) : Option Value → Option α
  | none => some default
  | some v => read v

/-- Null stands for nothing. -/
def optional {α : Type} (read : Value → Option α) : Value → Option (Option α)
  | .null => some none
  | v => (read v).map some

def flag (slot : Option Value) : Option Bool := fill false Value.asBool? slot

def text (slot : Option Value) : Option String := fill "" Value.asStr? slot

/-- A name standing alone, or as the only name of a record over null. -/
def tag? : Value → Option String
  | .str s => some s
  | .obj [(name, .null)] => some name
  | _ => none

/-- A list, each item read in turn. -/
def list? {α : Type} (read : Value → Option α) : Value → Option (List α)
  | .arr items => items.mapM read
  | _ => none

def entries? {α : Type} (read : Value → Option α) : Fields Value → Option (Fields α)
  | [] => some []
  | (name, v) :: rest => do
    let a ← read v
    let others ← entries? read rest
    return (name, a) :: others

/-- A table by name in ascending order; of entries with one name the last counts. -/
def table? {α : Type} (read : Value → Option α) : Value → Option (Fields α)
  | .obj fields => (entries? read fields).map fun table => (Fields.collapse table).sorted
  | _ => none

/-- Entries that are present. -/
def present (entries : List (String × Option Value)) : Fields Value :=
  entries.filterMap fun entry => entry.2.map fun v => (entry.1, v)

/-- Text entries of a table as a value. -/
def textTable (table : Fields String) : Value := .obj (table.map fun (name, s) => (name, .str s))

end Shape

end RecordQuery
