import RecordQuery.Value.Names

/-!
# Sets of names

A set has each name once, since its list ascends.
-/

namespace RecordQuery

namespace NameSet

theorem mem_insert {name other : String} {set : NameSet} :
    other ∈ insert name set ↔ other = name ∨ other ∈ set := by
  induction set with
  | nil => simp [insert]
  | cons first rest ih =>
    rw [insert]
    by_cases hsame : name = first
    · simp [hsame]
    · by_cases hbefore : name < first
      · simp [hsame, hbefore]
      · simp only [hsame, hbefore, ↓reduceIte, List.mem_cons, ih]
        exact or_left_comm

theorem mem_foldl_insert {names : List String} {set : NameSet} {name : String} :
    name ∈ names.foldl (fun set name => insert name set) set ↔ name ∈ set ∨ name ∈ names := by
  induction names generalizing set with
  | nil => simp
  | cons first rest ih =>
    rw [List.foldl_cons, ih, mem_insert, List.mem_cons, or_assoc, or_left_comm]

theorem mem_ofList {names : List String} {name : String} : name ∈ ofList names ↔ name ∈ names := by
  simp [ofList, mem_foldl_insert]

/-- Each name comes before all later ones. -/
def Ascending (set : NameSet) : Prop := set.Pairwise (· < ·)

instance (set : NameSet) : Decidable set.Ascending :=
  inferInstanceAs (Decidable (set.Pairwise (· < ·)))

theorem Ascending.nodup {set : NameSet} (h : Ascending set) : set.Nodup := by
  apply List.Pairwise.imp _ h
  intro a b hlt heq
  exact String.lt_irrefl _ (heq ▸ hlt)

/-- A set is told by its members. -/
theorem Ascending.ext {set other : NameSet} (h : Ascending set) (h' : Ascending other)
    (same : ∀ name, name ∈ set ↔ name ∈ other) : set = other := by
  have perm : set.Perm other := (List.perm_ext_iff_of_nodup h.nodup h'.nodup).mpr same
  apply perm.eq_of_pairwise _ h h'
  intro a b _ _ hab hba
  exact absurd (String.lt_trans hab hba) (String.lt_irrefl a)

theorem Ascending.insert {set : NameSet} (h : Ascending set) (name : String) :
    Ascending (NameSet.insert name set) := by
  induction set with
  | nil => simp [NameSet.insert, Ascending]
  | cons first rest ih =>
    obtain ⟨hfirst, hrest⟩ := List.pairwise_cons.mp h
    rw [NameSet.insert]
    by_cases hsame : name = first
    · simpa [hsame] using h
    · by_cases hbefore : name < first
      · simp only [hsame, hbefore, ↓reduceIte]
        refine List.pairwise_cons.mpr ⟨fun other hother => ?_, h⟩
        rcases List.mem_cons.mp hother with rfl | hother
        · exact hbefore
        · exact String.lt_trans hbefore (hfirst other hother)
      · simp only [hsame, hbefore, ↓reduceIte]
        refine List.pairwise_cons.mpr ⟨fun other hother => ?_, ih hrest⟩
        rcases mem_insert.mp hother with rfl | hother
        · apply String.not_le.mp
          intro hle
          exact hsame (String.le_antisymm hle (String.not_lt.mp hbefore))
        · exact hfirst other hother

theorem ascending_ofList (names : List String) : Ascending (ofList names) := by
  have grows : ∀ (names : List String) (set : NameSet), Ascending set →
      Ascending (names.foldl (fun set name => insert name set) set) := by
    intro names
    induction names with
    | nil => exact fun set h => h
    | cons name rest ih => exact fun set h => ih _ (h.insert name)
  exact grows names [] List.Pairwise.nil

end NameSet

end RecordQuery
