import Mathlib.Data.List.Nodup
import RecordQuery.Proofs.Store.Coverage
import RecordQuery.Proofs.Value.Apart

/-!
# Projections by sets of paths

A set of paths, each with a first segment of its own and without list positions, is kept or left out
as readers of paths see it: what its paths reach is all there or all gone, and the same holds the
other way round for paths that part from all of them. Besides its paths a kept record has its
identifier. A path into the identifier merges a part into the whole, and the whole stays as it was
exactly if the part passes by no item of a list.
-/

namespace RecordQuery

namespace Path

/-- The first segment of a path and those below it that are no list positions. -/
def names (s : String) : Path := root s :: (below s).named

theorem Apart.below {p q : String} (h : Apart (ofText p) (names q)) (same : root p = root q) :
    Apart (below p) (below q).named := by
  rw [ofText_eq, names, same] at h
  exact h.tail

theorem apart_of_root_ne {p q : String} (h : root p ≠ root q) : Apart (ofText p) (names q) := by
  rw [ofText_eq]
  exact apart_of_ne h _ _

end Path

namespace Value

/-- Every item of the lists that the path comes to has something for it to select. -/
def Whole : Value → Path → Prop
  | _, [] => True
  | obj fields, segment :: rest =>
    ∀ child, Fields.get? fields segment = some child → child.Whole rest
  | arr items, segment :: rest =>
    ∀ item ∈ items, ∃ child, item.get? segment = some child ∧
      (select? child rest).isSome = true ∧ child.Whole rest
  | _, _ :: _ => True

/-- Whether a record stays as it was when a part of one field is merged into it. -/
theorem merge_record_iff {fields : Record} {segment : String} {child part : Value}
    (h : Fields.get? fields segment = some child) :
    merge (obj fields) (obj [(segment, part)]) = obj fields ↔ merge child part = child := by
  have merged : merge (obj fields) (obj [(segment, part)])
      = obj (Fields.insert fields segment (merge child part)) := by
    simp [merge, mergeFields, h]
  rw [merged, obj.injEq]
  constructor
  · intro same
    have := congrArg (Fields.get? · segment) same
    simpa [Fields.get?_insert, h] using this
  · intro same
    rw [same, Fields.insert_get?_self h]

section
variable {path : Path} {items : List Value}

/-- Each item of a list has a part exactly if the list of parts is as long. -/
theorem length_selectRecords_eq_iff :
    (selectRecords items path).length = items.length ↔
      ∀ item ∈ items, item.isRecord = true ∧ (select? item path).isSome = true := by
  induction items with
  | nil => simp [selectRecords]
  | cons item more ih =>
    have fewer := length_selectRecords_le more path
    rw [selectRecords_cons, List.forall_mem_cons, ← ih, List.length_append, List.length_cons]
    cases item.isRecord with
    | false => simpa using by omega
    | true =>
      cases select? item path with
      | none => simpa using by omega
      | some part => simpa using by omega

theorem selectRecords_eq_map
    (each : ∀ item ∈ items, item.isRecord = true ∧ (select? item path).isSome = true) :
    selectRecords items path = items.map fun item => (select? item path).getD item := by
  induction items with
  | nil => rfl
  | cons item more ih =>
    obtain ⟨hrecord, hsome⟩ := each item List.mem_cons_self
    obtain ⟨part, hpart⟩ := Option.isSome_iff_exists.mp hsome
    rw [selectRecords_cons, ih fun other hother => each other (List.mem_cons_of_mem _ hother)]
    simp [hrecord, hpart]

theorem mergeItems_map_eq_self_iff {f : Value → Value} :
    mergeItems items (items.map f) = items ↔ ∀ item ∈ items, merge item (f item) = item := by
  induction items with
  | nil => simp [mergeItems]
  | cons item more ih => simp [mergeItems, ih]

end

/-- A value stays as it was when the part that a path selects of it is merged into it, exactly if
the path passes by no item of a list. -/
theorem merge_select?_eq_self_iff (path : Path) {v : Value} (distinct : v.Distinct) :
    (select? v path).elim v (merge v) = v ↔ v.Whole path := by
  induction path generalizing v with
  | nil => simp [select?, merge_self v distinct, Whole]
  | cons segment rest ih =>
    have onField : ∀ {fields child}, (obj fields).Distinct →
        Fields.get? fields segment = some child →
          ((select? (obj fields) (segment :: rest)).elim (obj fields) (merge (obj fields))
            = obj fields ↔ child.Whole rest) := by
      intro fields child hfields hchild
      rw [← ih (distinct_get? hfields hchild), select?_obj, hchild, Option.bind_some]
      cases select? child rest with
      | none => simp
      | some part => exact merge_record_iff hchild
    cases v with
    | obj fields =>
      cases hchild : Fields.get? fields segment with
      | none => simp [Whole, select?_obj, hchild]
      | some child => simpa [Whole, hchild] using onField distinct hchild
    | arr items =>
      rw [distinct_arr] at distinct
      -- An item stays if it is a record whose field stays.
      have onItem : ∀ item ∈ items,
          ((item.isRecord = true ∧ (select? item (segment :: rest)).isSome = true) ∧
            merge item ((select? item (segment :: rest)).getD item) = item ↔
          ∃ child, item.get? segment = some child ∧ (select? child rest).isSome = true ∧
            child.Whole rest) := by
        intro item hitem
        cases item with
        | obj fields =>
          cases hchild : Fields.get? fields segment with
          | none => simp [select?_obj, get?, hchild]
          | some child =>
            have hfield := onField (distinct _ hitem) hchild
            cases hselect : select? child rest with
            | none => simp [select?_obj, get?, hchild, hselect]
            | some part =>
              simpa [select?_obj, isRecord, get?, hchild, hselect] using hfield
        | _ => simp [isRecord, get?]
      have kept : (select? (arr items) (segment :: rest)).elim (arr items) (merge (arr items))
            = arr items ↔
          (selectRecords items (segment :: rest)).length = items.length ∧
            mergeItems items (selectRecords items (segment :: rest)) = items := by
        rw [select?, Option.elim_some, merge]
        split
        · rename_i same
          simp [same]
        · rename_i other
          refine ⟨fun h => absurd ?_ other, fun h => absurd h.1.symm other⟩
          rw [arr.inj h]
      rw [kept, length_selectRecords_eq_iff]
      constructor
      · rintro ⟨each, same⟩ item hitem
        rw [selectRecords_eq_map each, mergeItems_map_eq_self_iff] at same
        exact (onItem item hitem).mp ⟨each item hitem, same item hitem⟩
      · intro whole
        have each := fun item hitem => ((onItem item hitem).mpr (whole item hitem)).1
        refine ⟨each, ?_⟩
        rw [selectRecords_eq_map each, mergeItems_map_eq_self_iff]
        exact fun item hitem => ((onItem item hitem).mpr (whole item hitem)).2
    | _ => simp [select?, Whole]

end Value

namespace Record

variable {p q : String}

theorem reach_remove (plain : ∀ segment ∈ Path.below p, Path.index? segment = none) (r : Record) :
    reach (remove (Path.ofText p) r) (Path.ofText p) = [] := by
  rw [Path.ofText_eq]
  exact Value.reach_remove_of_below (fun nonempty v => Value.reach_without nonempty plain v) r

theorem reach_remove_of_apart (plain : ∀ segment ∈ Path.below p, Path.index? segment = none)
    (apart : (Path.ofText p).Apart (Path.names q)) (r : Record) :
    reach (remove (Path.ofText p) r) (Path.ofText q) = reach r (Path.ofText q) := by
  rw [Path.ofText_eq] at apart
  rw [Path.ofText_eq, Path.ofText_eq]
  exact Value.reach_remove_of_same_below apart
    (fun below v => Value.reach_without_of_apart plain below v) r

end Record

namespace Projection

/-- Each path has a first segment of its own, and no list positions below it. -/
structure Separate (paths : NameSet) : Prop where
  roots : (paths.map Path.root).Nodup
  plain : ∀ p ∈ paths, ∀ segment ∈ Path.below p, Path.index? segment = none

section
variable {paths : NameSet}

theorem Separate.tidy (h : Separate paths) : (only paths).Tidy :=
  ⟨h.roots.of_map, fun _ hp _ hq same => List.inj_on_of_nodup_map h.roots hq hp same⟩

/-- The identifier stays as it was unless a path into it passes by an item of a list. -/
theorem get?_id_apply_only_iff (separate : Separate paths) {r : Record} (distinct : r.Distinct) :
    Fields.get? ((only paths).apply r) "_id" = Fields.get? r "_id" ↔
      ∀ p ∈ paths, Path.root p = "_id" →
        ∀ id, Fields.get? r "_id" = some id → id.Whole (Path.below p) := by
  by_cases hpath : ∃ p ∈ paths, Path.root p = "_id"
  · obtain ⟨p, hp, hroot⟩ := hpath
    have only_p : ∀ q ∈ paths, Path.root q = "_id" → q = p := fun q hq hq' =>
      separate.tidy.2 p hp q hq (hq'.trans hroot.symm)
    rw [get?_apply_only_id separate.tidy hp hroot]
    cases hid : Fields.get? r "_id" with
    | none => simp
    | some id =>
      rw [Option.map_some, Option.some_inj,
        Value.merge_select?_eq_self_iff _ (Value.distinct_get? distinct hid)]
      constructor
      · intro whole q hq hroot' v hv
        rw [only_p q hq hroot', ← Option.some.inj hv]
        exact whole
      · intro whole
        exact whole p hp hroot id rfl
  · have absent : ∀ p ∈ paths, Path.root p ≠ "_id" := fun p hp hroot => hpath ⟨p, hp, hroot⟩
    rw [get?_apply_only_absent absent, if_pos rfl]
    exact iff_of_true rfl fun p hp hroot => absurd hroot (absent p hp)

/-- Nothing else is kept. -/
theorem reach_apply_only_of_apart (separate : Separate paths) {q : String}
    (notId : Path.root q ≠ "_id") (apart : ∀ p ∈ paths, (Path.ofText p).Apart (Path.names q))
    (r : Record) : Record.reach ((only paths).apply r) (Path.ofText q) = [] := by
  rw [Record.reach_ofText]
  by_cases hpath : ∃ p ∈ paths, Path.root p = Path.root q
  · obtain ⟨p, hp, hroot⟩ := hpath
    rw [← hroot, get?_apply_only_of_ne separate.tidy hp (hroot ▸ notId)]
    cases hselected : selected r p with
    | none => rfl
    | some part =>
      obtain ⟨v, _, hselect⟩ := Option.bind_eq_some_iff.mp hselected
      exact List.eq_nil_iff_forall_not_mem.mpr
        (Value.not_mem_reach_select? (separate.plain p hp) ((apart p hp).below hroot) hselect)
  · have absent : ∀ p ∈ paths, Path.root p ≠ Path.root q := fun p hp hroot => hpath ⟨p, hp, hroot⟩
    rw [get?_apply_only_absent absent, if_neg notId]
    rfl

/-- Leaving out paths does not touch what parts from all of them. -/
theorem reach_apply_except_of_apart
    (plain : ∀ p ∈ paths, ∀ segment ∈ Path.below p, Path.index? segment = none) {q : String}
    (apart : ∀ p ∈ paths, (Path.ofText p).Apart (Path.names q)) (r : Record) :
    Record.reach ((except paths).apply r) (Path.ofText q) = Record.reach r (Path.ofText q) := by
  rw [apply]
  induction paths generalizing r with
  | nil => rfl
  | cons p rest ih =>
    rw [List.foldl_cons, ih (fun other hother => plain other (List.mem_cons_of_mem _ hother))
      fun other hother => apart other (List.mem_cons_of_mem _ hother)]
    exact Record.reach_remove_of_apart (plain p List.mem_cons_self) (apart p List.mem_cons_self) r

/-- Nothing is left of the paths that are left out. -/
theorem reach_apply_except (separate : Separate paths) {p : String} (hp : p ∈ paths) (r : Record) :
    Record.reach ((except paths).apply r) (Path.ofText p) = [] := by
  obtain ⟨roots, plain⟩ := separate
  rw [apply]
  induction paths generalizing r with
  | nil => simp at hp
  | cons first rest ih =>
    obtain ⟨alone, hrest⟩ := List.nodup_cons.mp roots
    have plainRest : ∀ other ∈ rest, ∀ segment ∈ Path.below other, Path.index? segment = none :=
      fun other hother => plain other (List.mem_cons_of_mem _ hother)
    rcases List.mem_cons.mp hp with rfl | hp
    · have apart : ∀ other ∈ rest, (Path.ofText other).Apart (Path.names p) := fun other hother =>
        Path.apart_of_root_ne fun same => alone (List.mem_map.mpr ⟨other, hother, same⟩)
      have later := reach_apply_except_of_apart plainRest apart (Record.remove (Path.ofText p) r)
      rw [apply] at later
      rw [List.foldl_cons, later, Record.reach_remove (plain p List.mem_cons_self)]
    · exact ih hp _ hrest plainRest

/-- What is kept of a record and what is left of it, as readers of paths see it. A path parts from
another one if neither begins with the other, list positions of the second left out. -/
theorem apply_respects_paths (separate : Separate paths) {r : Record} (distinct : r.Distinct) :
    (∀ p ∈ paths, Record.reach ((only paths).apply r) (Path.ofText p)
      = Record.reach r (Path.ofText p)) ∧
    (Fields.get? ((only paths).apply r) "_id" = Fields.get? r "_id" ↔
      ∀ p ∈ paths, Path.root p = "_id" →
        ∀ id, Fields.get? r "_id" = some id → id.Whole (Path.below p)) ∧
    (∀ q, Path.root q ≠ "_id" → (∀ p ∈ paths, (Path.ofText p).Apart (Path.names q)) →
      Record.reach ((only paths).apply r) (Path.ofText q) = []) ∧
    (∀ p ∈ paths, Record.reach ((except paths).apply r) (Path.ofText p) = []) ∧
    ∀ q, (∀ p ∈ paths, (Path.ofText p).Apart (Path.names q)) →
      Record.reach ((except paths).apply r) (Path.ofText q) = Record.reach r (Path.ofText q) := by
  refine ⟨fun p hp => ?_, get?_id_apply_only_iff separate distinct, ?_, ?_, ?_⟩
  · have covers : (only paths).Covers p :=
      .inr ⟨p, hp, List.prefix_rfl, separate.plain p hp⟩
    exact reach_apply separate.tidy covers distinct
  · exact fun q notId apart => reach_apply_only_of_apart separate notId apart r
  · exact fun p hp => reach_apply_except separate hp r
  · exact fun q apart => reach_apply_except_of_apart separate.plain apart r

end

/-- A list stands where one identifier was meant. -/
def listedDeal : Record :=
  [("_id", .arr [.obj [("code", .int 1)], .int 5]),
    ("items", .arr [.obj [("fee", .int 2), ("tax", .int 3)], .int 4])]

theorem distinct_listedDeal : listedDeal.Distinct := by
  simp [Record.Distinct, listedDeal, Fields.names, Value.int, Value.Distinct,
    Value.DistinctFields, Value.DistinctItems]

theorem separate_listed : Separate ["_id.code", "items.fee"] :=
  ⟨by decide +kernel, by decide +kernel⟩

theorem apply_respects_paths_listedDeal :
    Separate ["_id.code", "items.fee"] ∧ listedDeal.Distinct ∧
      Record.reach ((only ["_id.code", "items.fee"]).apply listedDeal) (Path.ofText "items.fee")
        = [.int 2] ∧
      Record.reach ((only ["_id.code", "items.fee"]).apply listedDeal) (Path.ofText "items.tax")
        = [] ∧
      Record.reach ((except ["_id.code", "items.fee"]).apply listedDeal) (Path.ofText "items.fee")
        = [] ∧
      Record.reach ((except ["_id.code", "items.fee"]).apply listedDeal) (Path.ofText "items.0.tax")
        = [.int 3] := by
  obtain ⟨kept, _, nothingElse, gone, left⟩ :=
    apply_respects_paths separate_listed distinct_listedDeal
  refine ⟨separate_listed, distinct_listedDeal, (kept "items.fee" (by simp)).trans ?_,
    nothingElse "items.tax" (by decide +kernel) (by decide +kernel), gone "items.fee" (by simp),
    (left "items.0.tax" (by decide +kernel)).trans ?_⟩
  · decide +kernel
  · decide +kernel

/-- A path into the identifier, with the identifier not among the paths, loses an item of it. -/
theorem apply_only_cuts_identifier :
    Separate ["_id.code"] ∧ "_id" ∉ ["_id.code"] ∧ listedDeal.Distinct ∧
      Fields.get? ((only ["_id.code"]).apply listedDeal) "_id"
        = some (.arr [.obj [("code", .int 1)]]) ∧
      Fields.get? ((only ["_id.code"]).apply listedDeal) "_id" ≠ Fields.get? listedDeal "_id" :=
  ⟨⟨by decide +kernel, by decide +kernel⟩, by simp, distinct_listedDeal, by decide +kernel,
    by decide +kernel⟩

end Projection

end RecordQuery
