import RecordQuery.Proofs.Filter.Existential
import RecordQuery.Proofs.Store.Coverage
import RecordQuery.Proofs.Value.Cut

/-!
# Conditions decided on a projected record

A condition says the same of a record and of its projection if the projection covers its term. If it
does not, the only conditions that still agree are those that never change their answer, and those
that merely ask whether the field is there. Everything is about the records that show some field.
-/

namespace RecordQuery

namespace Value

theorem distinct_selectRecords {items : List Value} (segment : String) (rest : Path)
    (h : ∀ v ∈ items, v.Distinct) : ∀ v ∈ selectRecords items (segment :: rest), v.Distinct := by
  have harr : (arr (selectRecords items (segment :: rest))).Distinct :=
    distinct_select? (segment :: rest) (distinct_arr.mpr h) (by rw [select?])
  exact distinct_arr.mp harr

end Value

namespace CompiledCondition

/-- A condition that takes every list for nothing has one answer. -/
theorem unvarying_of_lost {c : CompiledCondition}
    (lost : ∀ items : List Value, (∀ v ∈ items, v.Distinct) → c.test [.arr items] = c.test []) :
    FieldTest.Unvarying c.test := by
  by_cases presence : c.AsksPresence
  · have := lost [] (by simp)
    simp [test_eq_iff presence] at this
  · have blind : FieldTest.Blind c.test [""] := by
      intro items hitems _
      rw [lost items hitems, lost _ (Value.distinct_selectRecords "" [] hitems)]
    exact (uniform_test presence).unvarying blind

end CompiledCondition

namespace Projection

/-- The condition says of every record that shows the field what it says of its projection. -/
def Decides (p : Projection) (field : String) (c : CompiledCondition) : Prop :=
  ∀ r : Record, r.Distinct → Fields.contains (p.apply r) field = true →
    c.toPredicate.holds (p.apply r) = c.toPredicate.holds r

/-- Some record shows the field. -/
def Shows (p : Projection) (field : String) : Prop :=
  ∃ r : Record, r.Distinct ∧ Fields.contains (p.apply r) field = true

/-- The condition asks whether the identifier, or the shown field itself, is there; a list of paths
may cut either but never takes it away. -/
def AsksForShown (p : Projection) (field : String) (c : CompiledCondition) : Prop :=
  c.AsksPresence ∧ Path.below c.term = [] ∧
    (Path.root c.term = "_id" ∨ Path.root c.term = field) ∧ ∃ paths, p = only paths

section
variable {p : Projection} {field : String} {c : CompiledCondition}

theorem contains_of_apply (tidy : p.Tidy) {r : Record} {name : String}
    (h : Fields.contains (p.apply r) name = true) : Fields.contains r name = true := by
  cases hstored : Fields.get? r name with
  | some v => simp [Fields.contains_eq_isSome, hstored]
  | none =>
    have : Fields.get? (p.apply r) name = Fields.get? (p.apply []) name :=
      get?_apply_congr tidy (by simp [hstored])
    rw [Fields.contains_eq_isSome, this] at h
    have nothing : Fields.get? (p.apply []) name = none := by
      cases p with
      | all => rfl
      | except names => simp [get?_apply_except tidy]
      | only paths =>
        by_cases hroot : ∃ path ∈ paths, Path.root path = name
        · obtain ⟨path, hmem, rfl⟩ := hroot
          by_cases hid : Path.root path = "_id"
          · rw [hid, get?_apply_only_id tidy hmem hid]
            rfl
          · rw [get?_apply_only_of_ne tidy hmem hid]
            rfl
        · rw [get?_apply_only_absent fun path hmem he => hroot ⟨path, hmem, he⟩]
          simp
    simp [nothing] at h

/-- A stored value can be chosen freely under a name other than that of the shown field. -/
theorem Shows.exists_stored (tidy : p.Tidy) (shows : p.Shows field) {name : String}
    (hne : name ≠ field) {v : Value} (hv : v.Distinct) :
    ∃ r : Record, r.Distinct ∧ Fields.contains (p.apply r) field = true ∧
      Fields.get? r name = some v := by
  obtain ⟨r, hr, hshown⟩ := shows
  refine ⟨Fields.insert r name v, Value.distinct_insert hr name hv, ?_, by simp [Fields.get?_insert]⟩
  have : Fields.get? (Fields.insert r name v) field = Fields.get? r field := by
    simp [Fields.get?_insert, hne]
  rwa [Fields.contains_eq_isSome, get?_apply_congr tidy this, ← Fields.contains_eq_isSome]

/-- Where nothing of the term's field is kept, lists count for nothing. -/
theorem Decides.lost_of_dropped (decides : p.Decides field c) (tidy : p.Tidy)
    (shows : p.Shows field) (hne : Path.root c.term ≠ field)
    (dropped : ∀ r, Fields.get? (p.apply r) (Path.root c.term) = none) :
    ∀ items : List Value, (∀ v ∈ items, v.Distinct) → c.test [.arr items] = c.test [] := by
  intro items hitems
  have hv := Value.distinct_spread (Path.below c.term) (Value.distinct_arr.mpr hitems)
  obtain ⟨r, hr, hshown, hstored⟩ := shows.exists_stored tidy hne hv
  have := decides r hr hshown
  rw [c.holds_toPredicate, c.holds_toPredicate, Record.reach_ofText, Record.reach_ofText, dropped,
    hstored] at this
  simpa [Value.reach_spread _ (show (Value.arr items).isRecord = false from rfl)] using this.symm

/-- A value under the first segment of a path can be chosen freely if the path selects something of
it: then the field is shown even if it is the field of the path. -/
theorem Shows.exists_cut {paths : NameSet} (tidy : (only paths).Tidy)
    (shows : (only paths).Shows field) {path : String} (mem : path ∈ paths) {v part : Value}
    (hv : v.Distinct) (hpart : Value.select? v (Path.below path) = some part) :
    ∃ r : Record, r.Distinct ∧ Fields.contains ((only paths).apply r) field = true ∧
      Fields.get? r (Path.root path) = some v := by
  by_cases hne : Path.root path = field
  · obtain ⟨r, hr, _⟩ := shows
    refine ⟨Fields.insert r (Path.root path) v, Value.distinct_insert hr _ hv, ?_,
      by simp [Fields.get?_insert]⟩
    rw [Fields.contains_eq_isSome, ← hne, get?_apply_only tidy mem]
    simp [selected, Fields.get?_insert, hpart]
  · exact shows.exists_stored tidy hne hv

/-- What is decided on a cut value is decided on the whole one. -/
theorem Decides.test_cut {paths : NameSet} (decides : (only paths).Decides field c)
    (tidy : (only paths).Tidy) (shows : (only paths).Shows field) {path : String}
    (mem : path ∈ paths) (root : Path.root path = Path.root c.term)
    (notId : Path.root path ≠ "_id") {v part : Value} (hv : v.Distinct)
    (hpart : Value.select? v (Path.below path) = some part) :
    c.test (Value.reach part (Path.below c.term)) = c.test (Value.reach v (Path.below c.term)) := by
  obtain ⟨r, hr, hshown, hstored⟩ := shows.exists_cut tidy mem hv hpart
  have := decides r hr hshown
  rw [c.holds_toPredicate, c.holds_toPredicate, Record.reach_ofText, Record.reach_ofText, ← root,
    get?_apply_only_of_ne tidy mem notId, selected, hstored, Option.bind_some, hpart] at this
  exact this

/-- A path goes on below the term, and the condition asks for presence: then it is presence of the
identifier or of the shown field itself. -/
theorem Decides.asksForShown_of_inside {paths : NameSet} (decides : (only paths).Decides field c)
    (tidy : (only paths).Tidy) (shows : (only paths).Shows field) {path : String}
    (mem : path ∈ paths) (root : Path.root path = Path.root c.term) {segment : String}
    {rest : Path} (inside : Path.below path = Path.below c.term ++ segment :: rest)
    (whole : Path.root c.term = "_id" → Path.below c.term = []) (presence : c.AsksPresence) :
    (only paths).AsksForShown field c := by
  by_cases hid : Path.root c.term = "_id"
  · exact ⟨presence, whole hid, .inl hid, paths, rfl⟩
  · cases hbelow : Path.below c.term with
    | nil =>
      refine ⟨presence, hbelow, .inr ?_, paths, rfl⟩
      by_cases hfield : Path.root c.term = field
      · exact hfield
      · -- A text under the term is lost whole, and the field is shown all the same.
        exfalso
        have htext : (Value.str "").Distinct := trivial
        obtain ⟨r, hr, hshown, hstored⟩ := shows.exists_stored tidy hfield htext
        have := decides r hr hshown
        rw [c.holds_toPredicate, c.holds_toPredicate, CompiledCondition.test_eq_iff presence,
          Record.reach_ofText, Record.reach_ofText, ← root,
          get?_apply_only_of_ne tidy mem (root ▸ hid), selected, root, hstored] at this
        simp [inside, hbelow, Value.select?, Value.reach] at this
    | cons first more =>
      -- A list stays in its place and loses the record that the term reaches a text in.
      exfalso
      let item := Value.nest (first :: more) (.str "")
      have hitem : (Value.arr [item]).Distinct := by
        rw [Value.distinct_arr]
        intro v hv
        rw [List.mem_singleton.mp hv]
        exact Value.distinct_nest _ trivial
      have hpart : Value.select? (.arr [item]) (Path.below path) = some (.arr []) := by
        have dropped : Value.select? item (first :: (more ++ segment :: rest)) = none := by
          have := Value.select?_nest (first :: more) (.str "") (segment :: rest)
          simpa [Value.select?] using this
        rw [inside, hbelow, List.cons_append, Value.select?, Value.selectRecords_cons, dropped]
        simp [Value.selectRecords]
      have hreach : (Value.reach (.arr [item]) (first :: more)).isEmpty = false := by
        have : Value.reachRecords [item] (first :: more) = [.str ""] := by
          rw [Value.reachRecords, Value.reach_nest]
          rfl
        simp [Value.reach, this]
      have := decides.test_cut tidy shows mem root (root ▸ hid) hitem hpart
      rw [CompiledCondition.test_eq_iff presence, hbelow, hreach, Value.reach_arr_nil] at this
      simp at this

/-- A path goes on below the term: then the condition never changes its answer, or asks for no more
than what is shown. -/
theorem Decides.unvarying_of_inside {paths : NameSet} (decides : (only paths).Decides field c)
    (tidy : (only paths).Tidy) (shows : (only paths).Shows field) {path : String}
    (mem : path ∈ paths) (root : Path.root path = Path.root c.term) {segment : String}
    {rest : Path} (inside : Path.below path = Path.below c.term ++ segment :: rest)
    (whole : Path.root c.term = "_id" → Path.below c.term = []) :
    FieldTest.Unvarying c.test ∨ (only paths).AsksForShown field c := by
  have part : ∀ items, Value.select? (.arr items) (segment :: rest)
      = some (.arr (Value.selectRecords items (segment :: rest))) := by
    intro items
    rw [Value.select?]
  have blind : FieldTest.Blind c.test (segment :: rest) := by
    intro items hitems hlength
    have hv : (Value.arr items).Distinct := Value.distinct_arr.mpr hitems
    by_cases hid : Path.root path = "_id"
    · -- The identifier keeps the shorter list that is merged into it.
      have hbelow : Path.below c.term = [] := whole (root ▸ hid)
      have hpart := part items
      rw [hbelow, List.nil_append] at inside
      obtain ⟨r, hr, hshown, hstored⟩ := shows.exists_cut tidy mem hv (inside ▸ hpart)
      have := decides r hr hshown
      rw [c.holds_toPredicate, c.holds_toPredicate, Record.reach_ofText, Record.reach_ofText,
        hbelow, ← root, hid, get?_apply_only_id tidy mem hid, inside, ← hid, hstored,
        Option.map_some, hpart] at this
      simpa [Value.merge, hlength.symm, Value.reach] using this.symm
    · have := decides.test_cut tidy shows mem root hid (Value.distinct_nest (Path.below c.term) hv)
        (inside ▸ Value.cut_inside (Path.below c.term) (segment :: rest) (part items))
      rw [Value.reach_nest, Value.reach_nest] at this
      exact this.symm
  by_cases presence : c.AsksPresence
  · exact .inr (decides.asksForShown_of_inside tidy shows mem root inside whole presence)
  · exact .inl ((CompiledCondition.uniform_test presence).unvarying blind)

/-- A path turns off from the term, or goes through a list position on it. -/
theorem Decides.lost_of_turn {paths : NameSet} (decides : (only paths).Decides field c)
    (tidy : (only paths).Tidy) (shows : (only paths).Shows field) {path : String}
    (mem : path ∈ paths) (root : Path.root path = Path.root c.term)
    (missed : ¬ (Path.below path <+: Path.below c.term ∧
      ∀ segment ∈ Path.below path, Path.index? segment = none))
    (outside : ¬ Path.below c.term <+: Path.below path ∨ Path.below path <+: Path.below c.term)
    (whole : Path.root c.term = "_id" → Path.below c.term = []) :
    ∀ items : List Value, (∀ v ∈ items, v.Distinct) → c.test [.arr items] = c.test [] := by
  intro items hitems
  have hv : (Value.arr items).Distinct := Value.distinct_arr.mpr hitems
  by_cases hcovers : Path.below path <+: Path.below c.term
  · have position : ∃ segment ∈ Path.below path, Path.index? segment ≠ none := by
      simpa [hcovers] using missed
    have notId : Path.root path ≠ "_id" := by
      intro hid
      obtain ⟨segment, hsegment, _⟩ := position
      rw [whole (root ▸ hid), List.prefix_nil] at hcovers
      simp [hcovers] at hsegment
    obtain ⟨part, hpart, hlost⟩ :=
      Value.cut_position hcovers position (show (Value.arr items).isRecord = false from rfl)
    have := decides.test_cut tidy shows mem root notId (Value.distinct_spread _ hv) hpart
    rw [hlost, Value.reach_spread _ rfl] at this
    exact this.symm
  · have hturn : ¬ Path.below c.term <+: Path.below path :=
      outside.resolve_right fun h => hcovers h
    have notId : Path.root path ≠ "_id" := by
      intro hid
      rw [whole (root ▸ hid)] at hturn
      exact hturn List.nil_prefix
    obtain ⟨v, part, hwhole, hpart, hreach, hlost⟩ := Value.cut_turn hcovers hturn hv
    have := decides.test_cut tidy shows mem root notId hwhole hpart
    rw [hlost, hreach] at this
    exact this.symm

theorem Decides.covers_or {paths : NameSet} (decides : (only paths).Decides field c)
    (tidy : (only paths).Tidy) (shows : (only paths).Shows field) (notId : field ≠ "_id")
    (whole : Path.root c.term = "_id" → Path.below c.term = []) :
    (only paths).Covers c.term ∨ FieldTest.Unvarying c.test ∨ (only paths).AsksForShown field c := by
  by_cases hroot : ∃ path ∈ paths, Path.root path = Path.root c.term
  · obtain ⟨path, mem, root⟩ := hroot
    by_cases covered : Path.below path <+: Path.below c.term ∧
        ∀ segment ∈ Path.below path, Path.index? segment = none
    · exact .inl (.inr ⟨path, mem, prefix_ofText.mpr ⟨root, covered.1⟩, covered.2⟩)
    · right
      by_cases outside : ¬ Path.below c.term <+: Path.below path ∨
          Path.below path <+: Path.below c.term
      · exact .inl (CompiledCondition.unvarying_of_lost
          (decides.lost_of_turn tidy shows mem root covered outside whole))
      · obtain ⟨hinside, hproper⟩ := not_or.mp outside
        obtain ⟨more, hmore⟩ := Classical.not_not.mp hinside
        cases more with
        | nil =>
          rw [List.append_nil] at hmore
          exact absurd (hmore ▸ List.prefix_rfl) hproper
        | cons segment rest =>
          exact decides.unvarying_of_inside tidy shows mem root hmore.symm whole
  · have absent : ∀ path ∈ paths, Path.root path ≠ Path.root c.term := fun path mem he =>
      hroot ⟨path, mem, he⟩
    by_cases hid : Path.root c.term = "_id"
    · exact .inl (.inl ⟨hid, hid ▸ absent⟩)
    · have hne : Path.root c.term ≠ field := by
        intro he
        obtain ⟨r, _, hshown⟩ := shows
        rcases contains_apply_only hshown with h | ⟨path, mem, hpath⟩
        · exact notId h
        · exact absent path mem (hpath.trans he.symm)
      right
      left
      apply CompiledCondition.unvarying_of_lost
      apply decides.lost_of_dropped tidy shows hne
      intro r
      rw [get?_apply_only_absent absent, if_neg hid]

theorem Decides.covers_or_of_except {names : NameSet} (decides : (except names).Decides field c)
    (tidy : (except names).Tidy) (shows : (except names).Shows field) :
    (except names).Covers c.term ∨ FieldTest.Unvarying c.test := by
  by_cases hroot : Path.root c.term ∈ names
  · have hne : Path.root c.term ≠ field := by
      rintro rfl
      obtain ⟨r, _, hshown⟩ := shows
      simp [Fields.contains_eq_isSome, get?_apply_except tidy, hroot] at hshown
    right
    apply CompiledCondition.unvarying_of_lost
    apply decides.lost_of_dropped tidy shows hne
    intro r
    rw [get?_apply_except tidy, if_pos hroot]
  · exact .inl hroot

theorem Covers.decides (covers : p.Covers c.term) (tidy : p.Tidy) : p.Decides field c := by
  intro r hr _
  rw [c.holds_toPredicate, c.holds_toPredicate, reach_apply tidy covers hr]

theorem decides_of_unvarying (unvarying : FieldTest.Unvarying c.test) (tidy : p.Tidy) :
    p.Decides field c := by
  intro r hr _
  rw [c.holds_toPredicate, c.holds_toPredicate]
  apply unvarying
  · intro v hv
    rw [Record.reach_ofText] at hv
    cases hfield : Fields.get? (p.apply r) (Path.root c.term) with
    | none => simp [hfield] at hv
    | some w =>
      rw [hfield] at hv
      exact Value.distinct_reach _ (distinct_apply tidy hr _ _ hfield) v hv
  · exact Record.distinct_reach hr c.term

/-- A list of paths keeps the identifier, and the shown field is there. -/
theorem AsksForShown.decides (asks : p.AsksForShown field c) (tidy : p.Tidy) :
    p.Decides field c := by
  obtain ⟨presence, hbelow, hroot, paths, rfl⟩ := asks
  intro r hr hshown
  have hsame : (Fields.get? ((only paths).apply r) (Path.root c.term)).isSome
      = (Fields.get? r (Path.root c.term)).isSome := by
    rcases hroot with hid | hfield
    · rw [hid]
      by_cases hpath : ∃ path ∈ paths, Path.root path = "_id"
      · obtain ⟨path, mem, hpath⟩ := hpath
        rw [get?_apply_only_id tidy mem hpath, Option.isSome_map]
      · rw [get?_apply_only_absent fun path mem he => hpath ⟨path, mem, he⟩, if_pos rfl]
    · rw [hfield, ← Fields.contains_eq_isSome, ← Fields.contains_eq_isSome, hshown,
        contains_of_apply tidy hshown]
  rw [c.holds_toPredicate, c.holds_toPredicate, CompiledCondition.test_eq_iff presence,
    Record.reach_ofText, Record.reach_ofText, hbelow]
  cases hcut : Fields.get? ((only paths).apply r) (Path.root c.term) <;>
    cases hstored : Fields.get? r (Path.root c.term) <;>
      simp [hcut, hstored, Value.reach] at hsame ⊢

/-- Which conditions are decided on a projection as on the stored record, if the field is shown at
all. -/
theorem decides_iff (tidy : p.Tidy) (shows : p.Shows field) (notId : field ≠ "_id")
    (whole : Path.root c.term = "_id" → Path.below c.term = []) :
    p.Decides field c ↔
      p.Covers c.term ∨ FieldTest.Unvarying c.test ∨ p.AsksForShown field c := by
  constructor
  · intro decides
    cases p with
    | all => exact .inl trivial
    | only paths => exact decides.covers_or tidy shows notId whole
    | except names => exact (decides.covers_or_of_except tidy shows).imp_right .inl
  · rintro (covers | unvarying | asks)
    · exact covers.decides tidy
    · exact decides_of_unvarying unvarying tidy
    · exact asks.decides tidy

end

end Projection

end RecordQuery
