import RecordQuery.Proofs.Value.Reach
import RecordQuery.Value.Order

/-!
# Wide values

A test compares with finitely many values, each of some width, and equal values have one width. So a
list or a record that is wide enough passes none of them; a record can be made as wide as needed
without a change to the part that a path selects of it.
-/

namespace RecordQuery

namespace Value

/-- The number of items of a list or of entries of a record. -/
def width : Value → Nat
  | arr items => items.length
  | obj fields => fields.length
  | _ => 0

theorem length_canonicalList (items : List Value) : (canonicalList items).length = items.length := by
  induction items with
  | nil => rfl
  | cons v rest ih => simp [canonicalList, ih]

theorem length_insertSorted {α : Type} (name : String) (v : α) (fields : Fields α) :
    (Fields.insertSorted name v fields).length = fields.length + 1 := by
  induction fields with
  | nil => rfl
  | cons entry rest ih =>
    obtain ⟨other, old⟩ := entry
    rw [Fields.insertSorted]
    split
    · rfl
    · simp [ih]

theorem length_canonicalFields (fields : List (String × Value)) :
    (canonicalFields fields).length = fields.length := by
  induction fields with
  | nil => rfl
  | cons entry rest ih => simp [canonicalFields, length_insertSorted, ih]

theorem width_canonical (v : Value) : v.canonical.width = v.width := by
  cases v with
  | arr items => exact length_canonicalList items
  | obj fields => exact length_canonicalFields fields
  | _ => rfl

theorem width_of_asDate? {v : Value} {t : Instant} (h : v.asDate? = some t) : v.width = 1 := by
  unfold asDate? at h
  split at h
  · rfl
  · simp at h

theorem width_of_equal {a b : Value} (h : a.equal b = true) : a.width = b.width := by
  unfold equal at h
  split at h
  · rfl
  · split at h
    · rename_i ha hb
      rw [width_of_asDate? ha, width_of_asDate? hb]
    · have : a.canonical = b.canonical := by simpa [same] using h
      rw [← width_canonical a, this, width_canonical]
    · simp at h

theorem width_of_compareSameKind? {a b : Value} {o : Ordering}
    (h : a.compareSameKind? b = some o) : a.width ≤ 1 := by
  unfold compareSameKind? at h
  split at h
  · exact Nat.zero_le 1
  · exact Nat.zero_le 1
  · split at h
    · rename_i ha _
      exact Nat.le_of_eq (width_of_asDate? ha)
    · simp at h

theorem exists_bound {α : Type} (size : α → Nat) (xs : List α) :
    ∃ bound, ∀ x ∈ xs, size x < bound := by
  induction xs with
  | nil => exact ⟨0, by simp⟩
  | cons first rest ih =>
    obtain ⟨bound, hbound⟩ := ih
    refine ⟨max bound (size first + 1), fun x hx => ?_⟩
    rcases List.mem_cons.mp hx with rfl | hx
    · omega
    · have := hbound x hx
      omega

theorem exists_notMem (taken : List String) : ∃ name, name ∉ taken := by
  obtain ⟨bound, hbound⟩ := exists_bound String.length taken
  refine ⟨String.ofList (List.replicate bound 'x'), fun hmem => ?_⟩
  have := hbound _ hmem
  simp at this

/-- A record can be widened without touching a name. -/
theorem exists_wide (name : String) (bound : Nat) {fields : List (String × Value)}
    (distinct : (obj fields).Distinct) :
    ∃ wide : List (String × Value), (obj wide).Distinct ∧ bound ≤ wide.length ∧
      Fields.get? wide name = Fields.get? fields name := by
  induction bound with
  | zero => exact ⟨fields, distinct, Nat.zero_le _, rfl⟩
  | succ n ih =>
    obtain ⟨wide, hwide, hlength, hget⟩ := ih
    obtain ⟨fresh, hfresh⟩ := exists_notMem (name :: Fields.names wide)
    have hne : fresh ≠ name := fun h => hfresh (by simp [h])
    have hnew : fresh ∉ Fields.names wide := fun h => hfresh (List.mem_cons_of_mem _ h)
    refine ⟨(fresh, null) :: wide, ?_, by simpa using hlength, ?_⟩
    · obtain ⟨once, hentries⟩ := distinct_obj.mp hwide
      refine distinct_obj.mpr ⟨List.nodup_cons.mpr ⟨hnew, once⟩, fun entry hentry => ?_⟩
      rcases List.mem_cons.mp hentry with rfl | hentry
      · trivial
      · exact hentries entry hentry
    · rw [Fields.get?_cons, if_neg hne, hget]

theorem selectRecords_lists (lists : List (List Value)) (path : Path) :
    selectRecords (lists.map arr) path = [] := by
  induction lists with
  | nil => rfl
  | cons items rest ih => simp [selectRecords_cons, isRecord, ih]

/-- The records of a list can be replaced by wide ones of which a path selects the same parts. -/
theorem exists_wide_records (segment : String) (rest : Path) (bound : Nat) {items : List Value}
    (distinct : ∀ v ∈ items, v.Distinct) :
    ∃ wide : List Value, (∀ v ∈ wide, v.Distinct ∧ bound ≤ v.width) ∧
      selectRecords wide (segment :: rest) = selectRecords items (segment :: rest) := by
  induction items with
  | nil => exact ⟨[], by simp, rfl⟩
  | cons v more ih =>
    obtain ⟨wide, hwide, hselect⟩ := ih fun w hw => distinct w (List.mem_cons_of_mem _ hw)
    cases v with
    | obj fields =>
      obtain ⟨entries, hentries, hbound, hget⟩ :=
        exists_wide segment bound (distinct _ List.mem_cons_self)
      refine ⟨obj entries :: wide, ?_, ?_⟩
      · intro w hw
        rcases List.mem_cons.mp hw with rfl | hw
        · exact ⟨hentries, hbound⟩
        · exact hwide w hw
      · rw [selectRecords_cons, selectRecords_cons, hselect, select?_obj, select?_obj, hget]
        rfl
    | _ => exact ⟨wide, hwide, by simp [selectRecords_cons, isRecord, hselect]⟩

end Value

end RecordQuery
