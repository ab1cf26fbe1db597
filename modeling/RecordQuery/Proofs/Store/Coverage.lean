import RecordQuery.Proofs.Store.Projection

/-!
# Terms that a projection covers

A term reaches the same values before and after a projection if the projection leaves the term's
field alone, or selects a part of it that the term goes on from.
-/

namespace RecordQuery

namespace Record

/-- The record has each name once, at every depth. -/
def Distinct (r : Record) : Prop := (Value.obj r).Distinct

theorem reach_ofText (r : Record) (term : String) :
    reach r (Path.ofText term)
      = (Fields.get? r (Path.root term)).elim [] fun v => Value.reach v (Path.below term) := by
  rw [Path.ofText_eq]
  exact Value.reachField_eq r _ _

theorem distinct_reach {r : Record} (h : r.Distinct) (term : String) :
    ∀ v ∈ reach r (Path.ofText term), v.Distinct := by
  intro v hv
  rw [reach_ofText] at hv
  cases hfield : Fields.get? r (Path.root term) with
  | none => simp [hfield] at hv
  | some w =>
    rw [hfield] at hv
    exact Value.distinct_reach _ (Value.distinct_get? h hfield) v hv

end Record

namespace Projection

/-- No path of the projection touches what another one keeps or leaves out. -/
def Tidy : Projection → Prop
  | all => True
  | only paths => paths.Nodup ∧
      ∀ path ∈ paths, ∀ other ∈ paths, Path.root other = Path.root path → other = path
  | except names => ∀ name ∈ names, '.' ∉ name.toList

/-- Everything that the term may reach is kept, in its place. -/
def Covers (p : Projection) (term : String) : Prop :=
  match p with
  | all => True
  | only paths => (Path.root term = "_id" ∧ ∀ path ∈ paths, Path.root path ≠ "_id") ∨
      ∃ path ∈ paths, Path.ofText path <+: Path.ofText term ∧
        ∀ segment ∈ Path.below path, Path.index? segment = none
  | except names => Path.root term ∉ names

theorem prefix_ofText {path term : String} :
    Path.ofText path <+: Path.ofText term ↔
      Path.root path = Path.root term ∧ Path.below path <+: Path.below term := by
  rw [Path.ofText_eq, Path.ofText_eq, List.cons_prefix_cons]

/-- The entry under a first segment that one path has: its part, joined with the identifier. -/
theorem get?_apply_only {paths : NameSet} (tidy : (only paths).Tidy) {path : String}
    (mem : path ∈ paths) (r : Record) :
    Fields.get? ((only paths).apply r) (Path.root path)
      = match selected r path with
        | some part => some (Value.join (Fields.get? (start r) (Path.root path)) part)
        | none => Fields.get? (start r) (Path.root path) := by
  rw [apply_only]
  exact get?_foldl_addPath r tidy.1 mem (tidy.2 path mem) (start r)

theorem get?_apply_only_of_ne {paths : NameSet} (tidy : (only paths).Tidy) {path : String}
    (mem : path ∈ paths) (notId : Path.root path ≠ "_id") (r : Record) :
    Fields.get? ((only paths).apply r) (Path.root path) = selected r path := by
  rw [get?_apply_only tidy mem, get?_start, if_neg notId]
  cases selected r path <;> rfl

theorem get?_apply_only_id {paths : NameSet} (tidy : (only paths).Tidy) {path : String}
    (mem : path ∈ paths) (id : Path.root path = "_id") (r : Record) :
    Fields.get? ((only paths).apply r) "_id"
      = (Fields.get? r "_id").map fun v =>
          (Value.select? v (Path.below path)).elim v (Value.merge v) := by
  have := get?_apply_only tidy mem r
  rw [id, get?_start, if_pos rfl, selected, id] at this
  rw [this]
  cases Fields.get? r "_id" with
  | none => rfl
  | some v =>
    rw [Option.bind_some, Option.map_some]
    cases Value.select? v (Path.below path) <;> rfl

theorem get?_apply_only_absent {paths : NameSet} {name : String}
    (absent : ∀ path ∈ paths, Path.root path ≠ name) (r : Record) :
    Fields.get? ((only paths).apply r) name = if name = "_id" then Fields.get? r "_id" else none := by
  rw [apply_only, get?_foldl_addPath_of_absent r absent, get?_start]

/-- A term that is covered reaches the same values after the projection. -/
theorem reach_apply {p : Projection} {term : String} (tidy : p.Tidy) (covers : p.Covers term)
    {r : Record} (distinct : r.Distinct) :
    Record.reach (p.apply r) (Path.ofText term) = Record.reach r (Path.ofText term) := by
  rw [Record.reach_ofText, Record.reach_ofText]
  cases p with
  | all => rfl
  | except names =>
    have hroot : Path.root term ∉ names := covers
    rw [get?_apply_except tidy, if_neg hroot]
  | only paths =>
    rcases covers with ⟨hid, habsent⟩ | ⟨path, hmem, hcovers, plain⟩
    · rw [hid, get?_apply_only_absent habsent, if_pos rfl]
    · obtain ⟨hroot, more, hmore⟩ := prefix_ofText.mp hcovers
      by_cases hid : Path.root term = "_id"
      · -- The identifier is there already, and its part is merged into it.
        rw [hid, get?_apply_only_id tidy hmem (hroot.trans hid), ← hmore]
        cases hv : Fields.get? r "_id" with
        | none => rfl
        | some v =>
          cases hselect : Value.select? v (Path.below path) with
          | none => simp [hselect]
          | some part =>
            simpa [hselect] using
              Value.reach_merge _ plain more (Value.distinct_get? distinct hv) hselect
      · rw [← hroot, get?_apply_only_of_ne tidy hmem (hroot ▸ hid), selected, ← hmore]
        cases Fields.get? r (Path.root path) with
        | none => rfl
        | some v =>
          have := Value.reach_select? (Path.below path) plain more v
          cases hselect : Value.select? v (Path.below path) <;> simpa [hselect] using this

/-- An entry of a projected record depends on the stored entry of that name alone. -/
theorem get?_apply_congr {p : Projection} (tidy : p.Tidy) {r r' : Record} {name : String}
    (h : Fields.get? r name = Fields.get? r' name) :
    Fields.get? (p.apply r) name = Fields.get? (p.apply r') name := by
  cases p with
  | all => exact h
  | except names => rw [get?_apply_except tidy, get?_apply_except tidy, h]
  | only paths =>
    by_cases hroot : ∃ path ∈ paths, Path.root path = name
    · obtain ⟨path, hmem, rfl⟩ := hroot
      by_cases hid : Path.root path = "_id"
      · rw [hid] at h ⊢
        rw [get?_apply_only_id tidy hmem hid, get?_apply_only_id tidy hmem hid, h]
      · rw [get?_apply_only_of_ne tidy hmem hid, get?_apply_only_of_ne tidy hmem hid, selected,
          selected, h]
    · have absent : ∀ path ∈ paths, Path.root path ≠ name := fun path hmem he =>
        hroot ⟨path, hmem, he⟩
      rw [get?_apply_only_absent absent, get?_apply_only_absent absent]
      by_cases hid : name = "_id"
      · rw [if_pos hid, if_pos hid, ← hid, h]
      · rw [if_neg hid, if_neg hid]

theorem distinct_apply {p : Projection} (tidy : p.Tidy) {r : Record} (distinct : r.Distinct) :
    ∀ name v, Fields.get? (p.apply r) name = some v → v.Distinct := by
  intro name v hv
  cases p with
  | all => exact Value.distinct_get? distinct hv
  | except names =>
    rw [get?_apply_except tidy] at hv
    split at hv
    · simp at hv
    · exact Value.distinct_get? distinct hv
  | only paths =>
    by_cases hroot : ∃ path ∈ paths, Path.root path = name
    · obtain ⟨path, hmem, rfl⟩ := hroot
      by_cases hid : Path.root path = "_id"
      · rw [hid, get?_apply_only_id tidy hmem hid, Option.map_eq_some_iff] at hv
        obtain ⟨w, hw, rfl⟩ := hv
        have hwd := Value.distinct_get? distinct hw
        cases hselect : Value.select? w (Path.below path) with
        | none => exact hwd
        | some part => exact Value.distinct_merge part w hwd (Value.distinct_select? _ hwd hselect)
      · rw [get?_apply_only_of_ne tidy hmem hid] at hv
        obtain ⟨w, hw, hselect⟩ := Option.bind_eq_some_iff.mp hv
        exact Value.distinct_select? _ (Value.distinct_get? distinct hw) hselect
    · have absent : ∀ path ∈ paths, Path.root path ≠ name := fun path hmem he =>
        hroot ⟨path, hmem, he⟩
      rw [get?_apply_only_absent absent] at hv
      split at hv
      · exact Value.distinct_get? distinct hv
      · simp at hv

end Projection

end RecordQuery
