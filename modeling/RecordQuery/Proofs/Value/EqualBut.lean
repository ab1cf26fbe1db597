import RecordQuery.Proofs.Value.Fields
import RecordQuery.Proofs.Value.Reach
import RecordQuery.Value.Order

/-!
# Records that differ in one field

What is read of a record at a path depends on the entry under the path's first segment alone. So two
records that differ in one field give the same readings at every path that begins elsewhere, and
compare alike by every key that begins elsewhere.
-/

namespace RecordQuery

namespace Record

/-- The records have the same entry under every name but one. -/
def EqualBut (name : String) (r s : Record) : Prop :=
  ∀ other, other ≠ name → Fields.get? r other = Fields.get? s other

/-- The records are the same as maps from names to values. -/
def Alike (r s : Record) : Prop := ∀ name, Fields.get? r name = Fields.get? s name

theorem EqualBut.contains {name : String} {r s : Record} (h : EqualBut name r s) {other : String}
    (apart : other ≠ name) : Fields.contains r other = Fields.contains s other := by
  rw [Fields.contains_eq_isSome, Fields.contains_eq_isSome, h other apart]

/-- Records that differ in a field that neither has do not differ. -/
theorem EqualBut.alike {name : String} {r s : Record} (h : EqualBut name r s)
    (left : Fields.get? r name = none) (right : Fields.get? s name = none) : r.Alike s := by
  intro other
  by_cases hname : other = name
  · rw [hname, left, right]
  · exact h other hname

section
variable {name : String} {r s : Record}

theorem EqualBut.reach (h : EqualBut name r s) {term : String} (apart : Path.root term ≠ name) :
    reach r (Path.ofText term) = reach s (Path.ofText term) := by
  rw [Path.ofText_eq]
  change Value.reachField r _ _ = Value.reachField s _ _
  rw [Value.reachField_eq, Value.reachField_eq, h _ apart]

theorem EqualBut.descend? (h : EqualBut name r s) {field : String}
    (apart : Path.root field ≠ name) :
    descend? r (Path.ofText field) = descend? s (Path.ofText field) := by
  rw [Path.ofText_eq]
  simp only [Record.descend?, reduceCtorEq, ↓reduceIte, Value.descend?, Value.get?, h _ apart]

/-- Keys that begin elsewhere order the records alike. -/
theorem EqualBut.compare {keys : List SortKey} (apart : ∀ key ∈ keys, Path.root key.field ≠ name)
    {a b c d : Record} (h : EqualBut name a c) (h' : EqualBut name b d) :
    compare keys a b = compare keys c d := by
  induction keys with
  | nil => rfl
  | cons key rest ih =>
    have first := apart key List.mem_cons_self
    rw [Record.compare, Record.compare, h.descend? first, h'.descend? first,
      ih fun other hother => apart other (List.mem_cons_of_mem _ hother)]

theorem EqualBut.foldl_erase (h : EqualBut name r s) (names : List String) :
    EqualBut name (names.foldl Fields.erase r) (names.foldl Fields.erase s) := by
  intro other hother
  rw [Fields.get?_foldl_erase, Fields.get?_foldl_erase, h other hother]

theorem get?_normalizeDates (r : Record) (field : String) :
    Fields.get? (normalizeDates r) field = (Fields.get? r field).map Value.normalizeDates := by
  change Fields.get? (Value.normalizeDatesFields r) field = _
  induction r with
  | nil => rfl
  | cons entry rest ih =>
    obtain ⟨other, v⟩ := entry
    rw [Value.normalizeDatesFields, Fields.get?_cons, Fields.get?_cons, ih]
    split <;> rfl

theorem Alike.normalizeDates (h : r.Alike s) : Alike (normalizeDates r) (normalizeDates s) := by
  intro other
  rw [get?_normalizeDates, get?_normalizeDates, h other]

end

end Record

end RecordQuery
