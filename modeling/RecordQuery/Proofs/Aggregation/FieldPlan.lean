import RecordQuery.Aggregation.FieldPlan
import RecordQuery.Proofs.Access.Selection
import RecordQuery.Proofs.Store.Coverage

/-!
# What is fetched for one path

The plan of one path is written as a list of fields, read back, and cleared of collisions. One path
is left of it: the identifier behind a lookup, the part of a field with one part, else the path
itself. Only sometimes does it cover the path that was asked for.
-/

namespace RecordQuery

theorem Path.ofText_text {segments : Path} (nonempty : segments ≠ [])
    (plain : ∀ segment ∈ segments, '.' ∉ segment.toList) : ofText (text segments) = segments :=
  Text.split_intercalate nonempty plain

namespace Field

/-- The path that is fetched for a path into a field. -/
def fetched (f : Field) (path : String) : String :=
  if f.isLookup then Path.text [Path.root path, "_id"]
  else
    match Field.partsOf f.type with
    | [part] => if path = Path.root path then Path.text [Path.root path, part] else path
    | _ => path

/-- What is fetched holds everything that a path may reach. Of a lookup the identifier alone is
fetched, of a field with a single part nothing but the part, and no fetched list keeps the
positions of its items. -/
def Fetches (f : Field) (path : String) : Prop :=
  if f.isLookup then ["_id"] <+: Path.below path
  else if path = Path.root path then (Field.partsOf f.type).length ≠ 1
  else ∀ segment ∈ Path.below path, Path.index? segment = none

instance (f : Field) (path : String) : Decidable (f.Fetches path) :=
  inferInstanceAs (Decidable (ite _ _ _))

/-- A name that is neither cut nor trimmed in a path or a list. -/
abbrev IsPart (name : String) : Prop :=
  name ≠ "" ∧ name.toList.all (fun c => c ≠ '.' && c ≠ ',' && !Text.isBlank c) = true

theorem IsPart.plain {name : String} (h : IsPart name) :
    ∀ c ∈ name.toList, c ≠ '.' ∧ c ≠ ',' ∧ Text.isBlank c = false := by
  simpa [and_assoc] using h.2

theorem partsOf_nodup (type : String) : (partsOf type).Nodup := by
  unfold partsOf
  split <;> decide

theorem isPart_of_mem {type part : String} (mem : part ∈ partsOf type) : IsPart part := by
  have : ∀ part ∈ partsOf type, IsPart part := by
    unfold partsOf
    split <;> decide
  exact this part mem

theorem isPart_id : IsPart "_id" := by decide

/-! Parts below a root. -/

section
variable {path part other : String}

theorem ofText_part (isPart : IsPart part) :
    Path.ofText (Path.text [Path.root path, part]) = [Path.root path, part] := by
  have plain : '.' ∉ part.toList := fun dot => (isPart.plain _ dot).1 rfl
  exact Path.ofText_text (by simp) (by simp [Path.root_plain, plain])

theorem root_part (isPart : IsPart part) :
    Path.root (Path.text [Path.root path, part]) = Path.root path := by
  have := Path.ofText_eq (Path.text [Path.root path, part])
  rw [ofText_part isPart] at this
  exact (List.cons.inj this).1.symm

theorem below_part (isPart : IsPart part) :
    Path.below (Path.text [Path.root path, part]) = [part] := by
  rw [Path.below, ofText_part isPart]
  rfl

theorem part_inj (isPart : IsPart part) (isOther : IsPart other)
    (same : Path.text [Path.root path, part] = Path.text [Path.root path, other]) :
    part = other := by
  have := congrArg Path.below same
  rw [below_part isPart, below_part isOther] at this
  exact List.singleton_inj.mp this

end

end Field

namespace FindRequest

/-- A path that a list of fields gives back as it is. -/
def Listed (path : String) : Prop := ',' ∉ path.toList ∧ Text.Trimmed path.toList

theorem Listed.part {path part : String} (listed : Listed path) (isPart : Field.IsPart part) :
    Listed (Path.text [Path.root path, part]) := by
  have shape : (Path.text [Path.root path, part]).toList
      = path.toList.takeWhile (· ≠ '.') ++ '.' :: part.toList := by
    simp [Path.text, Path.root]
  rw [Listed, shape]
  constructor
  · intro comma
    rcases List.mem_append.mp comma with hroot | hpart
    · exact listed.1 ((List.takeWhile_prefix _).subset hroot)
    · rcases List.mem_cons.mp hpart with hdot | hpart
      · cases hdot
      · exact (isPart.plain _ hpart).2.1 rfl
  · constructor
    · obtain ⟨c, rest, hpath, solid⟩ := listed.2.first
      rw [hpath]
      by_cases dot : c = '.'
      · exact ⟨'.', part.toList, by simp [dot], by decide⟩
      · exact ⟨c, rest.takeWhile (· ≠ '.') ++ '.' :: part.toList, by simp [dot], solid⟩
    · have nonempty : part.toList ≠ [] := fun nothing =>
        isPart.1 (String.toList_eq_nil_iff.mp nothing)
      refine ⟨path.toList.takeWhile (· ≠ '.') ++ '.' :: part.toList.dropLast,
        part.toList.getLast nonempty, ?_, (isPart.plain _ (List.getLast_mem nonempty)).2.2⟩
      rw [List.append_assoc, List.cons_append, List.dropLast_concat_getLast]

/-- Paths without commas are read back from their list. -/
theorem fieldSet_intercalate {paths : NameSet} (nonempty : paths ≠ [])
    (listed : ∀ path ∈ paths, Listed path) :
    fieldSet (some (",".intercalate paths)) = NameSet.ofList paths := by
  have cut : Text.split ',' (",".intercalate paths) = paths :=
    Text.split_intercalate nonempty fun path hpath => (listed path hpath).1
  have trimmed : paths.map Text.trim = paths :=
    (List.map_congr_left (g := id) fun path hpath => (listed path hpath).2.trim).trans
      (List.map_id paths)
  have kept : paths.filter (· ≠ "") = paths :=
    List.filter_eq_self.mpr fun path hpath => decide_eq_true (listed path hpath).2.ne_empty
  rw [fieldSet, cut, trimmed, kept]

end FindRequest

namespace FieldPlan

variable {document : DocumentType} {path : String} {f : Field}

theorem paths_ofPaths (known : document.field? (Path.root path) = some f) :
    (ofPaths document [path]).paths
      = if f.isLookup then [Path.text [Path.root path, "_id"]]
        else if path = Path.root path ∧ Field.partsOf f.type ≠ [] then
          NameSet.ofList ((Field.partsOf f.type).map fun part =>
            Path.text [Path.root path, part])
        else [path] := by
  have text (part : String) : Path.text [Path.root path, part] = Path.root path ++ "." ++ part := by
    simp [Path.text]
  rw [ofPaths, List.foldl_cons, List.foldl_nil, add]
  simp only [known, text]
  split
  · rw [String.append_assoc]
    rfl
  · split <;> rfl

/-- Whatever is planned for a path lies in the path's own field. -/
theorem listed_ofPaths (known : document.field? (Path.root path) = some f)
    (listed : FindRequest.Listed path) :
    (ofPaths document [path]).paths ≠ [] ∧ ∀ q ∈ (ofPaths document [path]).paths,
      FindRequest.Listed q ∧ Path.root q = Path.root path := by
  have part (name : String) (isPart : Field.IsPart name) :
      FindRequest.Listed (Path.text [Path.root path, name]) ∧
        Path.root (Path.text [Path.root path, name]) = Path.root path :=
    ⟨listed.part isPart, Field.root_part isPart⟩
  rw [paths_ofPaths known]
  split
  · exact ⟨by simp, by simpa using part "_id" Field.isPart_id⟩
  · split
    · rename_i whole
      refine ⟨?_, fun q hq => ?_⟩
      · obtain ⟨name, hname⟩ := List.exists_mem_of_ne_nil _ whole.2
        exact List.ne_nil_of_mem (NameSet.mem_ofList.mpr (List.mem_map_of_mem hname))
      · obtain ⟨name, hname, rfl⟩ := List.mem_map.mp (NameSet.mem_ofList.mp hq)
        exact part name (Field.isPart_of_mem hname)
    · exact ⟨by simp, by simpa using listed⟩

/-- The names that a list of the plan is read as. -/
theorem mem_fieldSet (known : document.field? (Path.root path) = some f)
    (listed : FindRequest.Listed path) {q : String} :
    q ∈ FindRequest.fieldSet (some (ofPaths document [path]).fieldList)
      ↔ q ∈ (ofPaths document [path]).paths := by
  obtain ⟨nonempty, each⟩ := listed_ofPaths known listed
  rw [fieldList, FindRequest.fieldSet_intercalate nonempty fun q hq => (each q hq).1,
    NameSet.mem_ofList]

/-- Two parts or more collide in their root. -/
theorem clearCollisions_parts (listed : FindRequest.Listed path) {first second : String}
    {others : List String} (isPart : ∀ name ∈ first :: second :: others, Field.IsPart name)
    (once : (first :: second :: others).Nodup) :
    Access.clearCollisions (NameSet.ofList (NameSet.ofList
        ((first :: second :: others).map fun name => Path.text [Path.root path, name])))
      = [Path.root path] := by
  have mem {q : String} : q ∈ NameSet.ofList (NameSet.ofList
        ((first :: second :: others).map fun name => Path.text [Path.root path, name])) ↔
      ∃ name ∈ first :: second :: others, Path.text [Path.root path, name] = q := by
    rw [NameSet.mem_ofList, NameSet.mem_ofList, List.mem_map]
  have two : Path.text [Path.root path, first] ≠ Path.text [Path.root path, second] := by
    intro same
    have := Field.part_inj (isPart first (by simp)) (isPart second (by simp)) same
    exact (List.nodup_cons.mp once).1 (by simp [this])
  refine Access.clearCollisions_shared (mem.mpr ⟨first, by simp, rfl⟩)
    (mem.mpr ⟨second, by simp, rfl⟩) two fun q hq => ?_
  obtain ⟨name, hname, rfl⟩ := mem.mp hq
  exact ⟨(listed.part (isPart name hname)).2.ne_empty, Field.root_part (isPart name hname)⟩

/-- One path is fetched for one path. -/
theorem clearCollisions_fieldSet (known : document.field? (Path.root path) = some f)
    (listed : FindRequest.Listed path) :
    Access.clearCollisions (FindRequest.fieldSet (some (ofPaths document [path]).fieldList))
      = [f.fetched path] := by
  obtain ⟨nonempty, each⟩ := listed_ofPaths known listed
  rw [fieldList, FindRequest.fieldSet_intercalate nonempty fun q hq => (each q hq).1]
  have single {q : String} (hq : FindRequest.Listed q) :
      Access.clearCollisions (NameSet.ofList [q]) = [q] :=
    Access.clearCollisions_singleton hq.2.ne_empty
  have part {name : String} (isPart : Field.IsPart name) := listed.part isPart
  rw [paths_ofPaths known, Field.fetched]
  cases hlookup : f.isLookup with
  | true => exact single (part Field.isPart_id)
  | false =>
    simp only [Bool.false_eq_true, ↓reduceIte]
    by_cases whole : path = Path.root path
    · cases hparts : Field.partsOf f.type with
      | nil => simpa using single listed
      | cons first rest =>
        have isPart : ∀ name ∈ first :: rest, Field.IsPart name := fun name hname =>
          Field.isPart_of_mem (hparts ▸ hname)
        have hfirst := isPart first List.mem_cons_self
        simp only [ne_eq, reduceCtorEq, not_false_eq_true, and_true, if_pos whole]
        cases rest with
        | nil => exact single (part hfirst)
        | cons second others =>
          exact (clearCollisions_parts listed isPart (hparts ▸ Field.partsOf_nodup f.type)).trans
            (congrArg (fun q => [q]) whole.symm)
    · simp only [whole, false_and, ↓reduceIte]
      rw [single listed]
      split <;> rfl

end FieldPlan

namespace Field

variable {f : Field} {path : String}

theorem root_fetched : Path.root (f.fetched path) = Path.root path := by
  rw [fetched]
  split
  · exact root_part isPart_id
  · split
    · rename_i part hparts
      have mem : part ∈ partsOf f.type := hparts ▸ List.mem_singleton_self part
      split
      · exact root_part (isPart_of_mem mem)
      · rfl
    · rfl

/-- What is fetched covers the path exactly under the condition above. -/
theorem covers_fetched_iff :
    (Projection.only [f.fetched path]).Covers path ↔ f.Fetches path := by
  have covers : (Projection.only [f.fetched path]).Covers path ↔
      Path.below (f.fetched path) <+: Path.below path ∧
        ∀ segment ∈ Path.below (f.fetched path), Path.index? segment = none := by
    simp [Projection.Covers, Projection.prefix_ofText, root_fetched]
  have part {name : String} (isPart : IsPart name) :
      Path.below (Path.text [Path.root path, name]) = [name] := below_part isPart
  rw [covers, fetched, Fetches]
  cases hlookup : f.isLookup with
  | true =>
    rw [if_pos rfl, if_pos rfl, part isPart_id]
    refine and_iff_left fun segment hsegment => ?_
    rw [List.mem_singleton.mp hsegment]
    rfl
  | false =>
    simp only [Bool.false_eq_true, ↓reduceIte]
    by_cases whole : path = Path.root path
    · have below : Path.below path = [] := by
        rw [whole, Path.below_root]
      rw [if_pos whole]
      split
      · rename_i name hparts
        rw [if_pos whole, part (isPart_of_mem (hparts ▸ List.mem_singleton_self name)), below,
          hparts]
        simp
      · rename_i several
        have : (partsOf f.type).length ≠ 1 := fun one => by
          obtain ⟨name, hname⟩ := List.length_eq_one_iff.mp one
          exact several name hname
        simp [below, this]
    · rw [if_neg whole]
      split
      · rw [if_neg whole]
        exact and_iff_right (List.prefix_refl _)
      · exact and_iff_right (List.prefix_refl _)

end Field

end RecordQuery
