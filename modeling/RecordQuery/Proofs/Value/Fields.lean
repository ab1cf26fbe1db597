import RecordQuery.Value.Basic

/-!
# Named entries as a map

What a lookup finds after each operation on named entries. `contains` and `names` say no more than
`get?` does.
-/

namespace RecordQuery

namespace Fields

variable {α : Type}

@[simp]
theorem get?_nil (name : String) : get? ([] : Fields α) name = none := rfl

theorem get?_cons (other name : String) (v : α) (rest : Fields α) :
    get? ((other, v) :: rest) name = if other = name then some v else get? rest name := by
  by_cases h : other = name
  · simp [get?, h]
  · simp [get?, h]

theorem contains_eq_isSome (fields : Fields α) (name : String) :
    contains fields name = (get? fields name).isSome := by
  induction fields with
  | nil => rfl
  | cons entry rest ih =>
    obtain ⟨other, v⟩ := entry
    rw [get?_cons]
    by_cases h : other = name
    · simp [contains, h]
    · simpa [contains, beq_eq_false_iff_ne.mpr h, h] using ih

theorem mem_names_iff (fields : Fields α) (name : String) :
    name ∈ names fields ↔ contains fields name = true := by
  simp [names, contains]

theorem mem_of_get? {fields : Fields α} {name : String} {v : α} (h : get? fields name = some v) :
    (name, v) ∈ fields := by
  induction fields with
  | nil => simp at h
  | cons entry rest ih =>
    obtain ⟨other, w⟩ := entry
    rw [get?_cons] at h
    by_cases hn : other = name
    · simp_all
    · exact List.mem_cons_of_mem _ (ih (by simpa [hn] using h))

theorem get?_insert (fields : Fields α) (name other : String) (v : α) :
    get? (insert fields name v) other = if name = other then some v else get? fields other := by
  induction fields with
  | nil => simp [insert, get?_cons]
  | cons entry rest ih =>
    obtain ⟨first, w⟩ := entry
    by_cases hf : first = name
    · subst hf
      by_cases ho : first = other
      · simp [insert, get?_cons, ho]
      · simp [insert, get?_cons, ho]
    · rw [insert, if_neg hf, get?_cons, get?_cons, ih]
      by_cases ho : first = other
      · have : name ≠ other := fun h => hf (ho.trans h.symm)
        simp [ho, this]
      · simp [ho]

/-- Writing what is there already changes nothing. -/
theorem insert_get?_self {fields : Fields α} {name : String} {v : α}
    (h : get? fields name = some v) : insert fields name v = fields := by
  induction fields with
  | nil => simp at h
  | cons entry rest ih =>
    obtain ⟨other, w⟩ := entry
    by_cases hn : other = name
    · simp_all [insert, get?_cons]
    · rw [get?_cons, if_neg hn] at h
      simp [insert, hn, ih h]

theorem insert_of_get?_none {fields : Fields α} {name : String} (h : get? fields name = none)
    (v : α) : insert fields name v = fields ++ [(name, v)] := by
  induction fields with
  | nil => rfl
  | cons entry rest ih =>
    obtain ⟨other, w⟩ := entry
    by_cases hn : other = name
    · simp [get?_cons, hn] at h
    · rw [get?_cons, if_neg hn] at h
      simp [insert, hn, ih h]

theorem get?_erase (fields : Fields α) (name other : String) :
    get? (erase fields name) other = if name = other then none else get? fields other := by
  induction fields with
  | nil => simp [erase]
  | cons entry rest ih =>
    obtain ⟨first, w⟩ := entry
    by_cases hf : first = name
    · subst hf
      rw [show erase ((first, w) :: rest) first = erase rest first by simp [erase], ih, get?_cons]
      by_cases ho : first = other
      · simp [ho]
      · simp [ho]
    · rw [show erase ((first, w) :: rest) name = (first, w) :: erase rest name by
        simp [erase, hf], get?_cons, get?_cons, ih]
      by_cases ho : first = other
      · have : name ≠ other := fun h => hf (ho.trans h.symm)
        simp [ho, this]
      · simp [ho]

/-- Erasing several names, in any order. -/
theorem get?_foldl_erase (dropped : List String) (fields : Fields α) (name : String) :
    get? (dropped.foldl erase fields) name
      = if name ∈ dropped then none else get? fields name := by
  induction dropped generalizing fields with
  | nil => simp
  | cons other rest ih =>
    rw [List.foldl_cons, ih, get?_erase]
    by_cases hr : name ∈ rest
    · simp [hr]
    · by_cases ho : other = name
      · simp [ho]
      · simp [hr, ho, Ne.symm ho]

theorem get?_append (fields more : Fields α) (name : String) :
    get? (fields ++ more) name = (get? fields name).or (get? more name) := by
  rw [get?, List.find?_append, Option.map_or]
  rfl

/-- Of entries with one name, the last counts. -/
theorem get?_collapse (fields : Fields α) (name : String) :
    get? (collapse fields) name = get? fields.reverse name := by
  have grows : ∀ (fields done : Fields α),
      get? (fields.foldl (fun done entry => insert done entry.1 entry.2) done) name
        = (get? fields.reverse name).or (get? done name) := by
    intro fields
    induction fields with
    | nil => exact fun _ => rfl
    | cons entry rest ih =>
      intro done
      obtain ⟨other, v⟩ := entry
      rw [List.foldl_cons, ih, get?_insert, List.reverse_cons, get?_append, get?_cons, get?_nil,
        Option.or_assoc]
      by_cases h : other = name
      · simp [h]
      · simp [h]
  rw [collapse, grows, get?_nil, Option.or_none]

end Fields

end RecordQuery
