import RecordQuery.Proofs.Value.Fields
import RecordQuery.Store.Projection

/-!
# Values with each name once

A stored record has no name twice, at any depth. Merging such a value with itself changes nothing.
-/

namespace RecordQuery

namespace Value

mutual
/-- No record inside the value has a name twice. -/
def Distinct : Value → Prop
  | arr items => DistinctItems items
  | obj fields => (Fields.names fields).Nodup ∧ DistinctFields fields
  | _ => True

def DistinctItems : List Value → Prop
  | [] => True
  | v :: rest => Distinct v ∧ DistinctItems rest

def DistinctFields : List (String × Value) → Prop
  | [] => True
  | (_, v) :: rest => Distinct v ∧ DistinctFields rest
end

theorem distinctItems_iff {items : List Value} : DistinctItems items ↔ ∀ v ∈ items, v.Distinct := by
  induction items with
  | nil => simp [DistinctItems]
  | cons v rest ih => simp [DistinctItems, ih]

theorem distinctFields_iff {fields : List (String × Value)} :
    DistinctFields fields ↔ ∀ entry ∈ fields, entry.2.Distinct := by
  induction fields with
  | nil => simp [DistinctFields]
  | cons entry rest ih => simp [DistinctFields, ih]

theorem distinct_arr {items : List Value} : (arr items).Distinct ↔ ∀ v ∈ items, v.Distinct := by
  rw [Distinct, distinctItems_iff]

theorem distinct_obj {fields : List (String × Value)} :
    (obj fields).Distinct ↔
      (Fields.names fields).Nodup ∧ ∀ entry ∈ fields, entry.2.Distinct := by
  rw [Distinct, distinctFields_iff]

theorem distinct_single {name : String} {v : Value} (h : v.Distinct) :
    (obj [(name, v)]).Distinct := by
  simp [distinct_obj, Fields.names, h]

end Value

namespace Fields

theorem get?_of_mem {α : Type} {fields : Fields α} (once : (names fields).Nodup) {name : String}
    {v : α} (mem : (name, v) ∈ fields) : get? fields name = some v := by
  induction fields with
  | nil => simp at mem
  | cons entry rest ih =>
    obtain ⟨other, w⟩ := entry
    obtain ⟨hother, hrest⟩ := List.nodup_cons.mp once
    rw [get?_cons]
    rcases List.mem_cons.mp mem with hsame | hmem
    · obtain ⟨rfl, rfl⟩ := Prod.mk.inj hsame
      simp
    · have hne : other ≠ name := by
        rintro rfl
        exact hother (List.mem_map.mpr ⟨_, hmem, rfl⟩)
      simpa [hne] using ih hrest hmem

theorem mem_insert {α : Type} {fields : Fields α} {name : String} {v : α} {entry : String × α}
    (h : entry ∈ insert fields name v) : entry = (name, v) ∨ entry ∈ fields := by
  induction fields with
  | nil => exact .inl (List.mem_singleton.mp h)
  | cons first rest ih =>
    obtain ⟨other, w⟩ := first
    rw [insert] at h
    split at h
    · rcases List.mem_cons.mp h with rfl | h
      · exact .inl rfl
      · exact .inr (List.mem_cons_of_mem _ h)
    · rcases List.mem_cons.mp h with rfl | h
      · exact .inr List.mem_cons_self
      · exact (ih h).imp_right (List.mem_cons_of_mem _)

theorem nodup_insert {α : Type} {fields : Fields α} (once : (names fields).Nodup) (name : String)
    (v : α) : (names (insert fields name v)).Nodup := by
  induction fields with
  | nil => simp [insert, names]
  | cons first rest ih =>
    obtain ⟨other, w⟩ := first
    obtain ⟨hother, hrest⟩ := List.nodup_cons.mp once
    rw [insert]
    split
    · rename_i hsame
      subst hsame
      exact once
    · rename_i hne
      refine List.nodup_cons.mpr ⟨fun hmem => ?_, ih hrest⟩
      obtain ⟨entry, hentry, hname⟩ := List.mem_map.mp hmem
      rcases mem_insert hentry with rfl | hentry
      · exact hne hname.symm
      · exact hother (List.mem_map.mpr ⟨entry, hentry, hname⟩)

end Fields

namespace Value

mutual
theorem merge_self : ∀ v : Value, v.Distinct → merge v v = v
  | null, _ | bool _, _ | num _, _ | str _, _ => rfl
  | arr items, h => by
    have : mergeItems items items = items := mergeItems_self items h
    simp [merge, this]
  | obj fields, h => by
    have hfields := mergeFields_self fields h.2 fields
      fun entry hentry => Fields.get?_of_mem h.1 hentry
    simp [merge, hfields]

theorem mergeItems_self : ∀ items : List Value, DistinctItems items →
    mergeItems items items = items
  | [], _ => rfl
  | v :: rest, h => by
    rw [mergeItems, merge_self v h.1, mergeItems_self rest h.2]

/-- Entries that are there already are merged without a trace. -/
theorem mergeFields_self : ∀ new : List (String × Value), DistinctFields new →
    ∀ old : List (String × Value), (∀ entry ∈ new, Fields.get? old entry.1 = some entry.2) →
      mergeFields old new = old
  | [], _, _, _ => rfl
  | (name, v) :: rest, h, old, present => by
    have hv : Fields.get? old name = some v := present (name, v) List.mem_cons_self
    rw [mergeFields]
    simp only [hv, merge_self v h.1]
    rw [Fields.insert_get?_self hv]
    exact mergeFields_self rest h.2 old fun entry hentry =>
      present entry (List.mem_cons_of_mem _ hentry)
end

theorem distinct_get? {fields : List (String × Value)} (h : (obj fields).Distinct) {name : String}
    {v : Value} (hv : Fields.get? fields name = some v) : v.Distinct :=
  (distinct_obj.mp h).2 (name, v) (Fields.mem_of_get? hv)

theorem distinct_insert {fields : List (String × Value)} (h : (obj fields).Distinct) (name : String)
    {v : Value} (hv : v.Distinct) : (obj (Fields.insert fields name v)).Distinct := by
  obtain ⟨once, hentries⟩ := distinct_obj.mp h
  refine distinct_obj.mpr ⟨Fields.nodup_insert once name v, fun entry hentry => ?_⟩
  rcases Fields.mem_insert hentry with rfl | hentry
  · exact hv
  · exact hentries entry hentry

mutual
theorem distinct_merge : ∀ new old : Value, old.Distinct → new.Distinct →
    (merge old new).Distinct
  | null, _, _, _ | bool _, _, _, _ | num _, _, _, _ | str _, _, _, _ => trivial
  | arr new, old, hold, hnew => by
    cases old with
    | arr items =>
      rw [merge]
      split
      · exact distinctItems_merge new items hold hnew
      · exact hnew
    | _ => exact hnew
  | obj new, old, hold, hnew => by
    cases old with
    | obj fields => exact distinctFields_merge new fields hold hnew.2
    | _ => exact hnew

theorem distinctItems_merge : ∀ new old : List Value, DistinctItems old → DistinctItems new →
    DistinctItems (mergeItems old new)
  | [], _, _, _ => trivial
  | _ :: _, [], _, _ => trivial
  | v :: rest, before :: more, hold, hnew =>
    ⟨distinct_merge v before hold.1 hnew.1, distinctItems_merge rest more hold.2 hnew.2⟩

theorem distinctFields_merge : ∀ new old : List (String × Value), (obj old).Distinct →
    DistinctFields new → (obj (mergeFields old new)).Distinct
  | [], _, hold, _ => hold
  | (name, v) :: rest, old, hold, hnew => by
    rw [mergeFields]
    split
    · rename_i before hbefore
      exact distinctFields_merge rest _
        (distinct_insert hold name (distinct_merge v before (distinct_get? hold hbefore) hnew.1))
        hnew.2
    · exact distinctFields_merge rest _ (distinct_insert hold name hnew.1) hnew.2
end

end Value

end RecordQuery
