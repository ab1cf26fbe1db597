import RecordQuery.Proofs.Value.Distinct
import RecordQuery.Proofs.Value.Names

/-!
# Entries in ascending order

Ascending entries are a map that is built by adjusting one name at a time: each adjustment changes
the entry of its name and no other, and keeps the order.
-/

namespace RecordQuery

namespace Fields

variable {α : Type}

/-- The names come in strictly ascending order. -/
def Ascending (fields : Fields α) : Prop := NameSet.Ascending (names fields)

theorem ascending_nil : Ascending ([] : Fields α) := List.Pairwise.nil

theorem Ascending.nodup {fields : Fields α} (h : fields.Ascending) : (names fields).Nodup :=
  NameSet.Ascending.nodup h

theorem Ascending.tail {entry : String × α} {rest : Fields α}
    (h : Ascending (entry :: rest)) : rest.Ascending :=
  (List.pairwise_cons.mp h).2

theorem get?_eq_none_iff {fields : Fields α} {name : String} :
    get? fields name = none ↔ name ∉ names fields := by
  rw [mem_names_iff, contains_eq_isSome]
  cases get? fields name <;> simp

theorem mem_names_iff_get? {fields : Fields α} {name : String} :
    name ∈ names fields ↔ get? fields name ≠ none := by
  rw [ne_eq, get?_eq_none_iff, Decidable.not_not]

/-- Nothing stands under a name before the first. -/
theorem Ascending.get?_of_lt {first name : String} {v : α} {rest : Fields α}
    (h : Ascending ((first, v) :: rest)) (before : name < first) :
    get? ((first, v) :: rest) name = none := by
  rw [get?_eq_none_iff]
  intro hmem
  rcases List.mem_cons.mp hmem with rfl | hrest
  · exact String.lt_irrefl _ before
  · exact String.lt_irrefl _ (String.lt_trans before ((List.pairwise_cons.mp h).1 name hrest))

theorem names_adjust (name : String) (f : Option α → α) (fields : Fields α) :
    names (adjust name f fields) = NameSet.insert name (names fields) := by
  induction fields with
  | nil => rfl
  | cons entry rest ih =>
    obtain ⟨other, old⟩ := entry
    rw [adjust, show names ((other, old) :: rest) = other :: names rest from rfl, NameSet.insert]
    by_cases hsame : name = other
    · simp [hsame, names]
    · by_cases hbefore : name < other
      · simp [hsame, hbefore, names]
      · simpa [hsame, hbefore, names] using ih

theorem Ascending.adjust {fields : Fields α} (h : fields.Ascending) (name : String)
    (f : Option α → α) : (Fields.adjust name f fields).Ascending := by
  rw [Ascending, names_adjust]
  exact NameSet.Ascending.insert h name

theorem Ascending.get?_adjust {fields : Fields α} (h : fields.Ascending) (name : String)
    (f : Option α → α) (other : String) :
    get? (Fields.adjust name f fields) other
      = if name = other then some (f (get? fields name)) else get? fields other := by
  induction fields with
  | nil => simp [Fields.adjust, Fields.get?_cons]
  | cons entry rest ih =>
    obtain ⟨first, old⟩ := entry
    rw [Fields.adjust]
    by_cases hsame : name = first
    · subst hsame
      by_cases hother : name = other <;> simp [Fields.get?_cons, hother]
    · by_cases hbefore : name < first
      · rw [if_neg hsame, if_pos hbefore, Fields.get?_cons, h.get?_of_lt hbefore]
      · rw [if_neg hsame, if_neg hbefore, Fields.get?_cons, ih h.tail, Fields.get?_cons first name,
          if_neg (Ne.symm hsame)]
        by_cases hother : name = other
        · subst hother
          simp [Ne.symm hsame]
        · simp [hother, Fields.get?_cons]

/-- Names without repetition collapse to themselves. -/
theorem collapse_of_nodup {fields : Fields α} (h : (names fields).Nodup) :
    collapse fields = fields := by
  have grows : ∀ (fields done : Fields α), (names (done ++ fields)).Nodup →
      fields.foldl (fun done entry => insert done entry.1 entry.2) done = done ++ fields := by
    intro fields
    induction fields with
    | nil => exact fun done _ => (List.append_nil done).symm
    | cons entry rest ih =>
      intro done hnodup
      obtain ⟨name, v⟩ := entry
      have fresh : get? done name = none := by
        rw [get?_eq_none_iff]
        intro hmem
        rw [names, List.map_append] at hnodup
        exact (List.nodup_append.mp hnodup).2.2 name hmem name (by simp) rfl
      rw [List.foldl_cons, insert_of_get?_none fresh, ih]
      · simp
      · simpa using hnodup
  exact grows fields [] h

end Fields

end RecordQuery
