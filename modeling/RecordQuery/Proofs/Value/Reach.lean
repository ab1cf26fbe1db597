import RecordQuery.Proofs.Value.Distinct
import RecordQuery.Proofs.Value.Path

/-!
# Paths into selected parts

A path reaches the same values in a value and in the part that a shorter path selects of it, as long
as no segment of the shorter path may be a list position: selecting drops items, so positions move.
-/

namespace RecordQuery

namespace Value

theorem reachField_eq (fields : List (String × Value)) (segment : String) (rest : Path) :
    reachField fields segment rest
      = (Fields.get? fields segment).elim [] fun v => reach v rest := by
  induction fields with
  | nil => rfl
  | cons entry more ih =>
    obtain ⟨name, v⟩ := entry
    by_cases h : name = segment
    · simp [reachField, Fields.get?_cons, h]
    · simpa [reachField, Fields.get?_cons, h] using ih

theorem reach_obj (fields : List (String × Value)) (segment : String) (rest : Path) :
    reach (obj fields) (segment :: rest)
      = (Fields.get? fields segment).elim [] fun v => reach v rest := by
  rw [reach, reachField_eq]

theorem reach_single (segment : String) (v : Value) (rest : Path) :
    reach (obj [(segment, v)]) (segment :: rest) = reach v rest := by
  simp [reach_obj, Fields.get?_cons]

theorem reach_other {name segment : String} (h : name ≠ segment) (v : Value) (rest : Path) :
    reach (obj [(name, v)]) (segment :: rest) = [] := by
  simp [reach_obj, Fields.get?_cons, h]

theorem reach_arr_of_name {segment : String} (h : Path.index? segment = none) (items : List Value)
    (rest : Path) : reach (arr items) (segment :: rest) = reachRecords items (segment :: rest) := by
  have nowhere : reachIndex items none rest = [] := by
    cases items <;> rfl
  rw [reach, h, nowhere, List.nil_append]

theorem reach_arr_nil (segment : String) (rest : Path) : reach (arr []) (segment :: rest) = [] := by
  simp [reach, reachIndex, reachRecords]

theorem selectField?_eq (fields : List (String × Value)) (segment : String) (rest : Path) :
    selectField? fields segment rest
      = (Fields.get? fields segment).bind fun v => select? v rest := by
  induction fields with
  | nil => rfl
  | cons entry more ih =>
    obtain ⟨name, v⟩ := entry
    by_cases h : name = segment
    · simp [selectField?, Fields.get?_cons, h]
    · simpa [selectField?, Fields.get?_cons, h] using ih

theorem select?_obj (fields : List (String × Value)) (segment : String) (rest : Path) :
    select? (obj fields) (segment :: rest)
      = ((Fields.get? fields segment).bind fun v => select? v rest).map
          fun child => obj [(segment, child)] := by
  rw [select?, selectField?_eq]

theorem select?_single (segment : String) (v : Value) (rest : Path) :
    select? (obj [(segment, v)]) (segment :: rest)
      = (select? v rest).map fun child => obj [(segment, child)] := by
  simp [select?_obj, Fields.get?_cons]

theorem selectRecords_cons (v : Value) (more : List Value) (path : Path) :
    selectRecords (v :: more) path
      = (if v.isRecord then (select? v path).toList else []) ++ selectRecords more path := by
  rw [selectRecords]
  cases v.isRecord with
  | false => simp
  | true => cases select? v path <;> simp

theorem selectRecords_append (a b : List Value) (path : Path) :
    selectRecords (a ++ b) path = selectRecords a path ++ selectRecords b path := by
  induction a with
  | nil => rfl
  | cons v more ih => simp [selectRecords_cons, ih]

theorem length_selectRecords_le (items : List Value) (path : Path) :
    (selectRecords items path).length ≤ items.length := by
  induction items with
  | nil => simp [selectRecords]
  | cons v rest ih =>
    rw [selectRecords_cons, List.length_append, List.length_cons]
    have : (if v.isRecord then (select? v path).toList else []).length ≤ 1 := by
      split
      · cases select? v path <;> simp
      · simp
    omega

/-- What is reached in each record of a list is reached in the list. -/
theorem reachRecords_selectRecords {segment : String} {rest path : Path}
    (onRecord : ∀ fields, (select? (obj fields) (segment :: rest)).elim []
      (fun part => reach part path) = reach (obj fields) path) (items : List Value) :
    reachRecords (selectRecords items (segment :: rest)) path = reachRecords items path := by
  induction items with
  | nil => rfl
  | cons item others ih =>
    rw [selectRecords_cons, reachRecords, ← ih]
    cases item with
    | obj fields =>
      rw [isRecord, if_pos rfl, ← onRecord fields]
      cases hselect : select? (obj fields) (segment :: rest) with
      | none => rfl
      | some part =>
        have hpart : part.isRecord = true := by
          rw [select?_obj, Option.map_eq_some_iff] at hselect
          obtain ⟨child, _, rfl⟩ := hselect
          rfl
        change reachRecords (part :: _) _ = reach part _ ++ _
        rw [reachRecords, if_pos hpart]
        rfl
    | _ => simp [isRecord]

/-- Below a path that selects something, and holds no list position, nothing is lost. -/
theorem reach_select? (names : Path) (plain : ∀ segment ∈ names, Path.index? segment = none)
    (more : Path) (v : Value) :
    (select? v names).elim [] (fun part => reach part (names ++ more))
      = reach v (names ++ more) := by
  induction names generalizing v with
  | nil => simp [select?]
  | cons segment rest ih =>
    have name : Path.index? segment = none := plain segment List.mem_cons_self
    have hrest : ∀ other ∈ rest, Path.index? other = none := fun other hother =>
      plain other (List.mem_cons_of_mem _ hother)
    have onRecord : ∀ fields,
        (select? (obj fields) (segment :: rest)).elim []
            (fun part => reach part (segment :: rest ++ more))
          = reach (obj fields) (segment :: rest ++ more) := by
      intro fields
      rw [select?_obj, List.cons_append, reach_obj]
      cases Fields.get? fields segment with
      | none => rfl
      | some child =>
        have := ih hrest child
        cases hselect : select? child rest with
        | none => simpa [hselect] using this
        | some part => simpa [hselect, reach_single] using this
    cases v with
    | obj fields => exact onRecord fields
    | arr items =>
      rw [select?, Option.elim_some, List.cons_append, reach_arr_of_name name,
        reach_arr_of_name name]
      exact reachRecords_selectRecords onRecord items
    | _ => simp [select?, reach]

/-- Parts of one list each, merged with their items, leave what is reached below them as it was. -/
theorem reachRecords_mergeItems {segment : String} {rest path : Path}
    (onRecord : ∀ fields part, (obj fields).Distinct →
      select? (obj fields) (segment :: rest) = some part →
        (merge (obj fields) part).isRecord = true ∧
          reach (merge (obj fields) part) path = reach (obj fields) path)
    {items : List Value} (distinct : (arr items).Distinct)
    (each : (selectRecords items (segment :: rest)).length = items.length) :
    reachRecords (mergeItems items (selectRecords items (segment :: rest))) path
      = reachRecords items path := by
  induction items with
  | nil => rfl
  | cons item others ih =>
    have fewer := length_selectRecords_le others (segment :: rest)
    rw [distinct_arr] at distinct
    rw [selectRecords_cons] at each ⊢
    cases item with
    | obj fields =>
      cases hselect : select? (obj fields) (segment :: rest) with
      | none =>
        simp [isRecord, hselect] at each
        omega
      | some part =>
        obtain ⟨hrecord, hreach⟩ := onRecord fields part (distinct _ List.mem_cons_self) hselect
        simp only [hselect, isRecord, ↓reduceIte, Option.toList_some, List.singleton_append,
          List.length_cons, Nat.add_right_cancel_iff] at each ⊢
        rw [mergeItems, reachRecords, reachRecords, if_pos hrecord, hreach,
          if_pos (show (obj fields).isRecord = true from rfl),
          ih (distinct_arr.mpr fun w hw => distinct w (List.mem_cons_of_mem _ hw)) each]
    | _ =>
      simp [isRecord] at each
      omega

/-- A part that is merged into what it was selected from changes nothing below the selecting
path. -/
theorem reach_merge (names : Path) (plain : ∀ segment ∈ names, Path.index? segment = none)
    (more : Path) {v part : Value} (distinct : v.Distinct) (h : select? v names = some part) :
    reach (merge v part) (names ++ more) = reach v (names ++ more) := by
  induction names generalizing v part with
  | nil =>
    obtain rfl : v = part := by simpa [select?] using h
    rw [merge_self v distinct]
  | cons segment rest ih =>
    have onRecord : ∀ fields part, (obj fields).Distinct →
        select? (obj fields) (segment :: rest) = some part →
          (merge (obj fields) part).isRecord = true ∧
            reach (merge (obj fields) part) (segment :: rest ++ more)
              = reach (obj fields) (segment :: rest ++ more) := by
      intro fields part hfields hpart
      rw [select?_obj, Option.map_eq_some_iff] at hpart
      obtain ⟨child, hchild, rfl⟩ := hpart
      obtain ⟨w, hw, hchild⟩ := Option.bind_eq_some_iff.mp hchild
      have merged : merge (obj fields) (obj [(segment, child)])
          = obj (Fields.insert fields segment (merge w child)) := by
        simp [merge, mergeFields, hw]
      rw [merged, List.cons_append, reach_obj, reach_obj, Fields.get?_insert, if_pos rfl, hw]
      exact ⟨rfl, ih (fun other hother => plain other (List.mem_cons_of_mem _ hother))
        (distinct_get? hfields hw) hchild⟩
    cases v with
    | obj fields => exact (onRecord fields part distinct h).2
    | arr items =>
      have kept := reach_select? (segment :: rest) plain more (arr items)
      rw [h, Option.elim_some] at kept
      obtain rfl : arr (selectRecords items (segment :: rest)) = part := by
        simpa [select?] using h
      rw [merge]
      split
      · rename_i same
        have name := plain segment List.mem_cons_self
        rw [List.cons_append, reach_arr_of_name name, reach_arr_of_name name]
        exact reachRecords_mergeItems onRecord distinct same.symm
      · exact kept
    | _ => simp [select?] at h

theorem distinct_select? (path : Path) {v part : Value} (h : v.Distinct)
    (hpart : select? v path = some part) : part.Distinct := by
  induction path generalizing v part with
  | nil =>
    obtain rfl : v = part := by simpa [select?] using hpart
    exact h
  | cons segment rest ih =>
    have onRecord : ∀ fields part, (obj fields).Distinct →
        select? (obj fields) (segment :: rest) = some part → part.Distinct := by
      intro fields part hfields hpart
      rw [select?_obj, Option.map_eq_some_iff] at hpart
      obtain ⟨child, hchild, rfl⟩ := hpart
      obtain ⟨w, hw, hchild⟩ := Option.bind_eq_some_iff.mp hchild
      exact distinct_single (ih (distinct_get? hfields hw) hchild)
    cases v with
    | obj fields => exact onRecord fields part h hpart
    | arr items =>
      obtain rfl : arr (selectRecords items (segment :: rest)) = part := by
        simpa [select?] using hpart
      rw [distinct_arr] at h ⊢
      induction items with
      | nil => simp [selectRecords]
      | cons item more ihItems =>
        have hmore := ihItems (fun w hw => h w (List.mem_cons_of_mem _ hw)) rfl
        rw [selectRecords_cons]
        intro w hw
        rcases List.mem_append.mp hw with hw | hw
        · cases item with
          | obj fields =>
            refine onRecord fields w (h _ List.mem_cons_self) ?_
            simpa [isRecord] using hw
          | _ => simp [isRecord] at hw
        · exact hmore w hw
    | _ => simp [select?] at hpart

theorem mem_reachIndex {items : List Value} {position : Option Nat} {rest : Path} {w : Value}
    (h : w ∈ reachIndex items position rest) : ∃ item ∈ items, w ∈ reach item rest := by
  induction items generalizing position with
  | nil => simp [reachIndex] at h
  | cons item more ih =>
    match position with
    | none => simp [reachIndex] at h
    | some 0 => exact ⟨item, List.mem_cons_self, h⟩
    | some (n + 1) =>
      obtain ⟨other, hother, hw⟩ := ih h
      exact ⟨other, List.mem_cons_of_mem _ hother, hw⟩

theorem mem_reachRecords {items : List Value} {path : Path} {w : Value}
    (h : w ∈ reachRecords items path) : ∃ fields, obj fields ∈ items ∧ w ∈ reach (obj fields) path := by
  induction items with
  | nil => simp [reachRecords] at h
  | cons item more ih =>
    rw [reachRecords] at h
    rcases List.mem_append.mp h with h | h
    · cases item with
      | obj fields => exact ⟨fields, List.mem_cons_self, h⟩
      | _ => simp [isRecord] at h
    · obtain ⟨fields, hfields, hw⟩ := ih h
      exact ⟨fields, List.mem_cons_of_mem _ hfields, hw⟩

theorem distinct_reach (path : Path) {v : Value} (h : v.Distinct) :
    ∀ w ∈ reach v path, w.Distinct := by
  induction path generalizing v with
  | nil => simpa [reach] using h
  | cons segment rest ih =>
    have onRecord : ∀ {fields}, (obj fields).Distinct →
        ∀ w ∈ reach (obj fields) (segment :: rest), w.Distinct := by
      intro fields hfields w hw
      rw [reach_obj] at hw
      cases hchild : Fields.get? fields segment with
      | none => simp [hchild] at hw
      | some child =>
        rw [hchild] at hw
        exact ih (distinct_get? hfields hchild) w hw
    cases v with
    | obj fields => exact onRecord h
    | arr items =>
      rw [distinct_arr] at h
      intro w hw
      rw [reach] at hw
      rcases List.mem_append.mp hw with hw | hw
      · obtain ⟨item, hitem, hw⟩ := mem_reachIndex hw
        exact ih (h item hitem) w hw
      · obtain ⟨fields, hitem, hw⟩ := mem_reachRecords hw
        exact onRecord (h _ hitem) w hw
    | _ => simp [reach]

end Value

end RecordQuery
