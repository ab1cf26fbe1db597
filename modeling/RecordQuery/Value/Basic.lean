import RecordQuery.Number.Basic

/-!
Values and records. A record is a list of named values in insertion order; writing an existing name
keeps its place.
-/

namespace RecordQuery

/-- Named entries in insertion order. -/
abbrev Fields (α : Type) := List (String × α)

namespace Fields

variable {α : Type}

def get? (fields : Fields α) (name : String) : Option α :=
  (fields.find? fun entry => entry.1 == name).map (·.2)

def contains (fields : Fields α) (name : String) : Bool := fields.any fun entry => entry.1 == name

/-- Replaces the entry of that name in place, or appends one. -/
def insert (fields : Fields α) (name : String) (value : α) : Fields α :=
  match fields with
  | [] => [(name, value)]
  | (other, old) :: rest =>
    if other = name then (name, value) :: rest else (other, old) :: insert rest name value

def erase (fields : Fields α) (name : String) : Fields α :=
  fields.filter fun entry => entry.1 != name

def names (fields : Fields α) : List String := fields.map (·.1)

/-- Repeated names collapse to the last value at the first position. -/
def collapse (fields : Fields α) : Fields α :=
  fields.foldl (fun done entry => insert done entry.1 entry.2) []

/-- Inserts before the first larger name, after equal ones. -/
def insertSorted (name : String) (value : α) : Fields α → Fields α
  | [] => [(name, value)]
  | (other, old) :: rest =>
    if name < other then (name, value) :: (other, old) :: rest
    else (other, old) :: insertSorted name value rest

/-- Sets the entry of a name in ascending entries to what `f` makes of the present one. -/
def adjust (name : String) (f : Option α → α) : Fields α → Fields α
  | [] => [(name, f none)]
  | (other, old) :: rest =>
    if name = other then (name, f (some old)) :: rest
    else if name < other then (name, f none) :: (other, old) :: rest
    else (other, old) :: adjust name f rest

/-- Entries in ascending order of their names. -/
def sorted (fields : Fields α) : Fields α :=
  fields.foldl (fun done entry => insertSorted entry.1 entry.2 done) []

end Fields

/-- A value of a record. -/
inductive Value
  | null
  | bool (b : Bool)
  | num (n : Number)
  | str (s : String)
  | arr (items : List Value)
  | obj (fields : List (String × Value))
  deriving Inhabited

abbrev Record := Fields Value

namespace Value

mutual
def decEq : (a b : Value) → Decidable (a = b)
  | null, null => isTrue rfl
  | bool a, bool b =>
    if h : a = b then isTrue (by rw [h]) else isFalse (by intro e; injection e; contradiction)
  | num a, num b =>
    if h : a = b then isTrue (by rw [h]) else isFalse (by intro e; injection e; contradiction)
  | str a, str b =>
    if h : a = b then isTrue (by rw [h]) else isFalse (by intro e; injection e; contradiction)
  | arr a, arr b =>
    match decEqList a b with
    | isTrue h => isTrue (by rw [h])
    | isFalse h => isFalse (by intro e; injection e; contradiction)
  | obj a, obj b =>
    match decEqFields a b with
    | isTrue h => isTrue (by rw [h])
    | isFalse h => isFalse (by intro e; injection e; contradiction)
  | null, bool _ | null, num _ | null, str _ | null, arr _ | null, obj _
  | bool _, null | bool _, num _ | bool _, str _ | bool _, arr _ | bool _, obj _
  | num _, null | num _, bool _ | num _, str _ | num _, arr _ | num _, obj _
  | str _, null | str _, bool _ | str _, num _ | str _, arr _ | str _, obj _
  | arr _, null | arr _, bool _ | arr _, num _ | arr _, str _ | arr _, obj _
  | obj _, null | obj _, bool _ | obj _, num _ | obj _, str _ | obj _, arr _ =>
    isFalse (by intro e; cases e)

def decEqList : (a b : List Value) → Decidable (a = b)
  | [], [] => isTrue rfl
  | [], _ :: _ | _ :: _, [] => isFalse (by intro e; cases e)
  | a :: as, b :: bs =>
    match decEq a b, decEqList as bs with
    | isTrue h, isTrue hs => isTrue (by rw [h, hs])
    | isFalse h, _ => isFalse (by intro e; injection e; contradiction)
    | _, isFalse hs => isFalse (by intro e; injection e; contradiction)

def decEqFields : (a b : List (String × Value)) → Decidable (a = b)
  | [], [] => isTrue rfl
  | [], _ :: _ | _ :: _, [] => isFalse (by intro e; cases e)
  | (k, a) :: as, (l, b) :: bs =>
    if hk : k = l then
      match decEq a b, decEqFields as bs with
      | isTrue h, isTrue hs => isTrue (by rw [hk, h, hs])
      | isFalse h, _ => isFalse (by intro e; injection e with e _; injection e; contradiction)
      | _, isFalse hs => isFalse (by intro e; injection e; contradiction)
    else isFalse (by intro e; injection e with e _; injection e; contradiction)
end

instance : DecidableEq Value := decEq

def int (n : Int) : Value := num (.int n)

def nat (n : Nat) : Value := num (.int n)

/-- A double that is no finite number has no value. -/
def ofFloat (x : Float) : Value := if Binary64.isFinite x then num (.real x) else null

def asStr? : Value → Option String
  | str s => some s
  | _ => none

def asBool? : Value → Option Bool
  | bool b => some b
  | _ => none

def asFloat? : Value → Option Float
  | num n => some n.toFloat
  | _ => none

/-- Whole numbers within signed 64 bits. -/
def asInt? : Value → Option Int
  | num (.int n) => if n < Word.bound63 then some n else none
  | _ => none

/-- Whole numbers that are not negative. -/
def asNat? : Value → Option Nat
  | num (.int (.ofNat n)) => some n
  | _ => none

def asList? : Value → Option (List Value)
  | arr items => some items
  | _ => none

def asRecord? : Value → Option Record
  | obj fields => some fields
  | _ => none

def isNull : Value → Bool
  | null => true
  | _ => false

def isRecord : Value → Bool
  | obj _ => true
  | _ => false

/-- The entry of that name, if the value is a record and has one. -/
def get? (v : Value) (name : String) : Option Value :=
  match v with
  | obj fields => Fields.get? fields name
  | _ => none

mutual
/-- The same value with names in order and one zero: two values are the same iff their canonical
forms are equal. -/
def canonical : Value → Value
  | null => null
  | bool b => bool b
  | num n => num n.canonical
  | str s => str s
  | arr items => arr (canonicalList items)
  | obj fields => obj (canonicalFields fields)

def canonicalList : List Value → List Value
  | [] => []
  | v :: rest => canonical v :: canonicalList rest

def canonicalFields : List (String × Value) → List (String × Value)
  | [] => []
  | (name, v) :: rest => Fields.insertSorted name (canonical v) (canonicalFields rest)
end

/-- Sameness, in which the order of a record's names does not count. -/
def same (a b : Value) : Bool := a.canonical = b.canonical

mutual
/-- Collapses repeated names at every depth. -/
def collapse : Value → Value
  | null => null
  | bool b => bool b
  | num n => num n
  | str s => str s
  | arr items => arr (collapseList items)
  | obj fields => obj (Fields.collapse (collapseFields fields))

def collapseList : List Value → List Value
  | [] => []
  | v :: rest => collapse v :: collapseList rest

def collapseFields : List (String × Value) → List (String × Value)
  | [] => []
  | (name, v) :: rest => (name, collapse v) :: collapseFields rest
end

mutual
/-- Puts the names in ascending order at every depth. -/
def sortNames : Value → Value
  | null => null
  | bool b => bool b
  | num n => num n
  | str s => str s
  | arr items => arr (sortNamesList items)
  | obj fields => obj (Fields.sorted (sortNamesFields fields))

def sortNamesList : List Value → List Value
  | [] => []
  | v :: rest => sortNames v :: sortNamesList rest

def sortNamesFields : List (String × Value) → List (String × Value)
  | [] => []
  | (name, v) :: rest => (name, sortNames v) :: sortNamesFields rest
end

end Value

end RecordQuery
