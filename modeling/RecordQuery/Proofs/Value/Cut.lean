import RecordQuery.Proofs.Value.Reach

/-!
# What a selection loses

If the selecting path is not a prefix of the other one, or has a segment that may be a list
position, there are values of which the part no longer shows what the other path reaches. Each way
to miss it has its own value; a list can always be put at the end of the other path.
-/

namespace RecordQuery

namespace Value

/-- Records inside each other along a path. -/
def nest : Path → Value → Value
  | [], v => v
  | segment :: rest, v => obj [(segment, nest rest v)]

theorem reach_nest (path : Path) (v : Value) : reach (nest path v) path = [v] := by
  induction path with
  | nil => simp [nest, reach]
  | cons segment rest ih => rw [nest, reach_single, ih]

theorem distinct_nest (path : Path) {v : Value} (h : v.Distinct) : (nest path v).Distinct := by
  induction path with
  | nil => exact h
  | cons segment rest ih => exact distinct_single ih

theorem select?_nest (path : Path) (v : Value) (more : Path) :
    select? (nest path v) (path ++ more) = (select? v more).map (nest path) := by
  induction path with
  | nil => simp [nest]
  | cons segment rest ih =>
    rw [nest, List.cons_append, select?_single, ih, Option.map_map]
    rfl

/-- Records inside each other, and lists at the segments that may be list positions. -/
def spread : Path → Value → Value
  | [], v => v
  | segment :: rest, v =>
    match Path.index? segment with
    | some n => arr (List.replicate n null ++ [spread rest v])
    | none => obj [(segment, spread rest v)]

theorem reachIndex_replicate (n : Nat) (v : Value) (rest : Path) :
    reachIndex (List.replicate n null ++ [v]) (some n) rest = reach v rest := by
  induction n with
  | zero => rfl
  | succ n ih => simpa [List.replicate_succ, reachIndex] using ih

theorem reachRecords_replicate (n : Nat) (v : Value) (path : Path) :
    reachRecords (List.replicate n null ++ [v]) path
      = if v.isRecord then reach v path else [] := by
  induction n with
  | zero => simp [reachRecords]
  | succ n ih => simpa [List.replicate_succ, reachRecords, isRecord] using ih

theorem selectRecords_replicate (n : Nat) (v : Value) (path : Path) :
    selectRecords (List.replicate n null ++ [v]) path
      = if v.isRecord then (select? v path).toList else [] := by
  induction n with
  | zero => simp [selectRecords_cons, selectRecords]
  | succ n ih => simpa [List.replicate_succ, selectRecords_cons, isRecord] using ih

/-- A spread value is a record only at a segment that is no list position. -/
theorem spread_eq_obj {path : Path} {v : Value} (hv : v.isRecord = false)
    (h : (spread path v).isRecord = true) :
    ∃ name w, Path.index? name = none ∧ spread path v = obj [(name, w)] := by
  cases path with
  | nil => simp [spread, hv] at h
  | cons segment rest =>
    cases hindex : Path.index? segment with
    | some n => simp [spread, hindex, isRecord] at h
    | none => exact ⟨segment, spread rest v, hindex, by simp [spread, hindex]⟩

theorem reach_spread (path : Path) {v : Value} (hv : v.isRecord = false) :
    reach (spread path v) path = [v] := by
  induction path with
  | nil => simp [spread, reach]
  | cons segment rest ih =>
    cases hindex : Path.index? segment with
    | none => simp only [spread, hindex, reach_single, ih]
    | some n =>
      simp only [spread, hindex, reach, reachIndex_replicate, reachRecords_replicate, ih]
      cases hrecord : (spread rest v).isRecord with
      | false => simp
      | true =>
        obtain ⟨name, w, hname, heq⟩ := spread_eq_obj hv hrecord
        have hne : name ≠ segment := by
          rintro rfl
          simp [hname] at hindex
        simp [heq, reach_other hne]

theorem distinct_spread (path : Path) {v : Value} (h : v.Distinct) : (spread path v).Distinct := by
  induction path with
  | nil => exact h
  | cons segment rest ih =>
    cases hindex : Path.index? segment with
    | none => simpa only [spread, hindex] using distinct_single ih
    | some n =>
      simp only [spread, hindex, distinct_arr, List.mem_append, List.mem_singleton]
      rintro item (hitem | rfl)
      · rw [List.eq_of_mem_replicate hitem]
        trivial
      · exact ih

/-- A path through a list position selects nothing that the position reaches. -/
theorem cut_position {names path : Path} (covers : names <+: path)
    (position : ∃ segment ∈ names, Path.index? segment ≠ none) {v : Value}
    (hv : v.isRecord = false) :
    ∃ part, select? (spread path v) names = some part ∧ reach part path = [] := by
  induction names generalizing path with
  | nil => simp at position
  | cons segment rest ih =>
    obtain ⟨more, rfl⟩ := covers
    rw [List.cons_append]
    cases hindex : Path.index? segment with
    | none =>
      have hrest : ∃ other ∈ rest, Path.index? other ≠ none := by
        obtain ⟨other, hother, hne⟩ := position
        rcases List.mem_cons.mp hother with rfl | hother
        · exact absurd hindex hne
        · exact ⟨other, hother, hne⟩
      obtain ⟨part, hpart, hreach⟩ := ih (List.prefix_append rest more) hrest
      refine ⟨obj [(segment, part)], ?_, ?_⟩
      · simp only [spread, hindex, select?_single, hpart, Option.map_some]
      · rw [reach_single, hreach]
    | some n =>
      refine ⟨arr [], ?_, reach_arr_nil _ _⟩
      simp only [spread, hindex, select?, selectRecords_replicate]
      cases hrecord : (spread (rest ++ more) v).isRecord with
      | false => rfl
      | true =>
        obtain ⟨name, w, hname, heq⟩ := spread_eq_obj hv hrecord
        have hne : name ≠ segment := by
          rintro rfl
          simp [hname] at hindex
        simp [heq, select?_obj, Fields.get?_cons, hne]

/-- A path that takes another turn selects nothing of what lies behind the first. -/
theorem cut_turn {names path : Path} (here : ¬ names <+: path) (there : ¬ path <+: names)
    {v : Value} (distinct : v.Distinct) :
    ∃ whole part, whole.Distinct ∧ select? whole names = some part ∧ reach whole path = [v] ∧
      reach part path = [] := by
  induction names generalizing path with
  | nil => exact absurd List.nil_prefix here
  | cons first rest ih =>
    cases path with
    | nil => exact absurd List.nil_prefix there
    | cons segment more =>
      by_cases hsame : first = segment
      · subst hsame
        obtain ⟨whole, part, hwhole, hselect, hreach, hlost⟩ :=
          ih (fun h => here (by simpa using h)) (fun h => there (by simpa using h))
        refine ⟨obj [(first, whole)], obj [(first, part)], distinct_single hwhole, ?_, ?_, ?_⟩
        · rw [select?_single, hselect]
          rfl
        · rw [reach_single, hreach]
        · rw [reach_single, hlost]
      · refine ⟨obj [(first, nest rest null), (segment, nest more v)],
          obj [(first, nest rest null)], ?_, ?_, ?_, reach_other hsame _ _⟩
        · have := distinct_nest rest (v := null) trivial
          simp [distinct_obj, Fields.names, hsame, this, distinct_nest more distinct]
        · have := select?_nest rest null []
          rw [List.append_nil] at this
          rw [select?_obj, Fields.get?_cons, if_pos rfl, Option.bind_some, this]
          simp [select?]
        · simp [reach_obj, Fields.get?_cons, hsame, reach_nest]

/-- A path that goes on inside the values that the other one reaches cuts them too. -/
theorem cut_inside (path more : Path) {v part : Value} (h : select? v more = some part) :
    select? (nest path v) (path ++ more) = some (nest path part) := by
  rw [select?_nest, h]
  rfl

/-- What a path reaches is lost where the selecting path is no prefix of it, or may pass a list
position. -/
theorem exists_cut {names path : Path}
    (missed : ¬ (names <+: path ∧ ∀ segment ∈ names, Path.index? segment = none)) {v : Value}
    (distinct : v.Distinct) (noRecord : v.isRecord = false)
    (leaf : ∀ segment rest, select? v (segment :: rest) = none) :
    ∃ whole, whole.Distinct ∧ reach whole path = [v] ∧
      ((select? whole names).elim [] fun part => reach part path) = [] := by
  by_cases covers : names <+: path
  · have position : ∃ segment ∈ names, Path.index? segment ≠ none := by
      simpa [covers] using missed
    obtain ⟨part, hpart, hlost⟩ := cut_position covers position noRecord
    refine ⟨spread path v, distinct_spread path distinct, reach_spread path noRecord, ?_⟩
    rw [hpart]
    exact hlost
  · by_cases inside : path <+: names
    · obtain ⟨more, rfl⟩ := inside
      refine ⟨nest path v, distinct_nest path distinct, reach_nest path v, ?_⟩
      cases more with
      | nil => exact absurd (by simp) covers
      | cons segment rest => simp [select?_nest, leaf]
    · obtain ⟨whole, part, hwhole, hpart, hreach, hlost⟩ := cut_turn covers inside distinct
      refine ⟨whole, hwhole, hreach, ?_⟩
      rw [hpart]
      exact hlost

end Value

/-- Every value is what a path reaches in some record. -/
theorem Record.exists_reach (path : String) (v : Value) :
    ∃ r : Record, Record.reach r (Path.ofText path) = [v] := by
  refine ⟨[(Path.root path, Value.nest (Path.below path) v)], ?_⟩
  rw [Path.ofText_eq]
  refine (Value.reachField_eq _ _ _).trans ?_
  rw [Fields.get?_cons, if_pos rfl, Option.elim_some, Value.reach_nest]

end RecordQuery
