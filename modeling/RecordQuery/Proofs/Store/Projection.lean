import RecordQuery.Proofs.Value.Reach

/-!
# What a projection keeps

An entry of a projected record comes from the stored entry of that name alone: it is the part that
the path with this first segment selects.
-/

namespace RecordQuery

namespace Value

/-- A part that joins what is there already. -/
def join (before : Option Value) (part : Value) : Value :=
  match before with
  | some v => merge v part
  | none => part

theorem mergeFields_single (done : Record) (name : String) (part : Value) :
    mergeFields done [(name, part)]
      = Fields.insert done name (join (Fields.get? done name) part) := by
  cases h : Fields.get? done name with
  | none => simp [mergeFields, join, h]
  | some before => simp [mergeFields, join, h]

end Value

namespace Projection

/-- What a path selects of a record, below its first segment. -/
def selected (source : Record) (path : String) : Option Value :=
  (Fields.get? source (Path.root path)).bind fun v => Value.select? v (Path.below path)

theorem addPath_eq (source done : Record) (path : String) :
    addPath source done path = match selected source path with
      | some part =>
        Fields.insert done (Path.root path)
          (Value.join (Fields.get? done (Path.root path)) part)
      | none => done := by
  rw [addPath, Path.ofText_eq]
  simp only [Value.selectField?_eq, Value.mergeFields_single]
  rfl

theorem get?_addPath (source done : Record) (path name : String) :
    Fields.get? (addPath source done path) name
      = if Path.root path = name then
          match selected source path with
          | some part => some (Value.join (Fields.get? done name) part)
          | none => Fields.get? done name
        else Fields.get? done name := by
  rw [addPath_eq]
  by_cases hroot : Path.root path = name
  · cases selected source path with
    | none => simp
    | some part => simp [Fields.get?_insert, hroot]
  · cases selected source path with
    | none => simp
    | some part => simp [Fields.get?_insert, hroot]

theorem get?_foldl_addPath_of_absent (source : Record) {paths : NameSet} {name : String}
    (absent : ∀ path ∈ paths, Path.root path ≠ name) (done : Record) :
    Fields.get? (paths.foldl (addPath source) done) name = Fields.get? done name := by
  induction paths generalizing done with
  | nil => rfl
  | cons path rest ih =>
    rw [List.foldl_cons, ih fun other hother => absent other (List.mem_cons_of_mem _ hother),
      get?_addPath, if_neg (absent path List.mem_cons_self)]

/-- A first segment that one path alone has. -/
theorem get?_foldl_addPath (source : Record) {paths : NameSet} (once : paths.Nodup) {path : String}
    (mem : path ∈ paths) (alone : ∀ other ∈ paths, Path.root other = Path.root path → other = path)
    (done : Record) :
    Fields.get? (paths.foldl (addPath source) done) (Path.root path)
      = match selected source path with
        | some part => some (Value.join (Fields.get? done (Path.root path)) part)
        | none => Fields.get? done (Path.root path) := by
  induction paths generalizing done with
  | nil => simp at mem
  | cons first rest ih =>
    obtain ⟨hfirst, hrest⟩ := List.nodup_cons.mp once
    rw [List.foldl_cons]
    by_cases hsame : first = path
    · subst hsame
      rw [get?_foldl_addPath_of_absent, get?_addPath, if_pos rfl]
      intro other hother hroot
      exact hfirst (alone other (List.mem_cons_of_mem _ hother) hroot ▸ hother)
    · have hroot : Path.root first ≠ Path.root path := fun h =>
        hsame (alone first List.mem_cons_self h)
      rw [ih hrest ((List.mem_cons.mp mem).resolve_left fun h => hsame h.symm)
        fun other hother => alone other (List.mem_cons_of_mem _ hother), get?_addPath,
        if_neg hroot]

/-- The record that the paths of a projection are added to. -/
def start (r : Record) : Record :=
  match Fields.get? r "_id" with
  | some id => [("_id", id)]
  | none => []

theorem get?_start (r : Record) (name : String) :
    Fields.get? (start r) name = if name = "_id" then Fields.get? r "_id" else none := by
  unfold start
  cases h : Fields.get? r "_id" with
  | none => simp
  | some id => simp [Fields.get?_cons, eq_comm]

theorem apply_only (paths : NameSet) (r : Record) :
    (only paths).apply r = paths.foldl (addPath r) (start r) := rfl

/-- Every name that a list of paths keeps is the identifier or the first segment of a path. -/
theorem contains_apply_only {paths : NameSet} {r : Record} {name : String}
    (h : Fields.contains ((only paths).apply r) name = true) :
    name = "_id" ∨ ∃ path ∈ paths, Path.root path = name := by
  by_cases hroot : ∃ path ∈ paths, Path.root path = name
  · exact .inr hroot
  · left
    have absent : ∀ path ∈ paths, Path.root path ≠ name := fun path hpath he =>
      hroot ⟨path, hpath, he⟩
    rw [Fields.contains_eq_isSome, apply_only, get?_foldl_addPath_of_absent r absent,
      get?_start] at h
    by_cases hid : name = "_id"
    · exact hid
    · simp [hid] at h

/-- Names without dots that are left out. -/
theorem get?_apply_except {names : NameSet} (plain : ∀ name ∈ names, '.' ∉ name.toList)
    (r : Record) (name : String) :
    Fields.get? ((except names).apply r) name
      = if name ∈ names then none else Fields.get? r name := by
  have erased : ∀ names : NameSet, (∀ name ∈ names, '.' ∉ name.toList) → ∀ r,
      names.foldl (fun done path => Record.remove (Path.ofText path) done) r
        = names.foldl Fields.erase r := by
    intro names
    induction names with
    | nil => intros; rfl
    | cons first rest ih =>
      intro hplain r
      rw [List.foldl_cons, List.foldl_cons, Path.ofText_of_plain (hplain first List.mem_cons_self),
        Record.remove, ih fun other hother => hplain other (List.mem_cons_of_mem _ hother)]
  rw [apply, erased names plain, Fields.get?_foldl_erase]

end Projection

end RecordQuery
