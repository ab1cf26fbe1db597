import RecordQuery.Proofs.Value.Reach

/-!
# Paths that part

If neither of two paths begins with the other, the part that one selects shows nothing of the other,
and removing one leaves what the other reaches as it was. Both operations go into every record of a
list and know no positions, so positions in the other path do not count.
-/

namespace RecordQuery

namespace Path

/-- The segments that are no list positions. -/
def named (path : Path) : Path := path.filter fun segment => index? segment = none

/-- Neither path begins with the other. -/
def Apart (p q : Path) : Prop := ¬ p <+: q ∧ ¬ q <+: p

instance (p q : Path) : Decidable (Apart p q) := inferInstanceAs (Decidable (_ ∧ _))

theorem named_cons_of_name {segment : String} (h : index? segment = none) (rest : Path) :
    named (segment :: rest) = segment :: named rest := by
  simp [named, h]

theorem named_cons_of_position {segment : String} (h : index? segment ≠ none) (rest : Path) :
    named (segment :: rest) = named rest := by
  simp [named, h]

theorem Apart.ne_nil {p q : Path} (h : Apart p q) : p ≠ [] := by
  rintro rfl
  exact h.1 List.nil_prefix

theorem Apart.ne_nil' {p q : Path} (h : Apart p q) : q ≠ [] := by
  rintro rfl
  exact h.2 List.nil_prefix

theorem Apart.tail {segment : String} {p q : Path} (h : Apart (segment :: p) (segment :: q)) :
    Apart p q :=
  ⟨fun hp => h.1 ((List.prefix_cons_inj segment).mpr hp),
    fun hq => h.2 ((List.prefix_cons_inj segment).mpr hq)⟩

theorem apart_of_ne {a b : String} (h : a ≠ b) (p q : Path) : Apart (a :: p) (b :: q) :=
  ⟨fun hp => h (List.cons_prefix_cons.mp hp).1, fun hq => h (List.cons_prefix_cons.mp hq).1.symm⟩

end Path

namespace Value

theorem mem_selectRecords {items : List Value} {path : Path} {part : Value}
    (h : part ∈ selectRecords items path) :
    ∃ fields, obj fields ∈ items ∧ select? (obj fields) path = some part := by
  induction items with
  | nil => simp [selectRecords] at h
  | cons item more ih =>
    rw [selectRecords_cons] at h
    rcases List.mem_append.mp h with h | h
    · cases item with
      | obj fields => exact ⟨fields, List.mem_cons_self, by simpa [isRecord] using h⟩
      | _ => simp [isRecord] at h
    · obtain ⟨fields, hfields, hpart⟩ := ih h
      exact ⟨fields, List.mem_cons_of_mem _ hfields, hpart⟩

/-- The part that a path selects shows nothing of a path that parts from it. -/
theorem not_mem_reach_select? {names path : Path}
    (plain : ∀ segment ∈ names, Path.index? segment = none) (apart : names.Apart path.named)
    {v part : Value} (h : select? v names = some part) (w : Value) : w ∉ reach part path := by
  induction path generalizing names v part with
  | nil => exact absurd rfl apart.ne_nil'
  | cons segment more ih =>
    obtain ⟨first, rest, rfl⟩ := List.exists_cons_of_ne_nil apart.ne_nil
    have hrest : ∀ other ∈ rest, Path.index? other = none := fun other hother =>
      plain other (List.mem_cons_of_mem _ hother)
    have onRecord : ∀ {fields part}, select? (obj fields) (first :: rest) = some part →
        w ∉ reach part (segment :: more) := by
      intro fields part hpart
      rw [select?_obj, Option.map_eq_some_iff] at hpart
      obtain ⟨child, hchild, rfl⟩ := hpart
      obtain ⟨field, _, hchild⟩ := Option.bind_eq_some_iff.mp hchild
      by_cases hsame : first = segment
      · subst hsame
        rw [Path.named_cons_of_name (plain first List.mem_cons_self)] at apart
        rw [reach_single]
        exact ih hrest apart.tail hchild
      · simp [reach_other hsame]
    cases v with
    | obj fields => exact onRecord h
    | arr items =>
      obtain rfl : arr (selectRecords items (first :: rest)) = part := by simpa [select?] using h
      rw [reach, List.mem_append, not_or]
      constructor
      · -- A position leads into one of the selected records, which the same path selected.
        intro hw
        have position : Path.index? segment ≠ none := by
          intro hnone
          rw [hnone] at hw
          cases hitems : selectRecords items (first :: rest) <;> simp [hitems, reachIndex] at hw
        rw [Path.named_cons_of_position position] at apart
        obtain ⟨item, hitem, hw⟩ := mem_reachIndex hw
        obtain ⟨fields, _, hitem⟩ := mem_selectRecords hitem
        exact ih plain apart hitem hw
      · intro hw
        obtain ⟨fields, hitem, hw⟩ := mem_reachRecords hw
        obtain ⟨_, _, hitem⟩ := mem_selectRecords hitem
        exact onRecord hitem hw
    | _ => simp [select?] at h

/-- What removing a path inside records leaves of an item of a list. -/
def itemWithout (path : Path) : Value → Value
  | obj fields => obj (Record.remove path fields)
  | other => other

/-- What removing a path below a segment leaves of the value at that segment. -/
def without (path : Path) : Value → Value
  | obj fields => obj (Record.remove path fields)
  | arr items => arr (items.map (itemWithout path))
  | other => other

theorem isRecord_itemWithout (path : Path) (v : Value) :
    (itemWithout path v).isRecord = v.isRecord := by
  cases v <;> rfl

theorem reachRecords_map {f : Value → Value} {path : Path} {items : List Value}
    (kind : ∀ v, (f v).isRecord = v.isRecord)
    (onRecord : ∀ fields, obj fields ∈ items →
      reach (f (obj fields)) path = reach (obj fields) path) :
    reachRecords (items.map f) path = reachRecords items path := by
  induction items with
  | nil => rfl
  | cons item more ih =>
    rw [List.map_cons, reachRecords, reachRecords, kind,
      ih fun fields hfields => onRecord fields (List.mem_cons_of_mem _ hfields)]
    cases item with
    | obj fields => rw [onRecord fields List.mem_cons_self]
    | _ => rfl

theorem reachIndex_map {f : Value → Value} {path : Path} {items : List Value}
    (same : ∀ v ∈ items, reach (f v) path = reach v path) (position : Option Nat) :
    reachIndex (items.map f) position path = reachIndex items position path := by
  induction items generalizing position with
  | nil => rfl
  | cons item more ih =>
    match position with
    | none => rfl
    | some 0 => exact same item List.mem_cons_self
    | some (n + 1) =>
      exact ih (fun v hv => same v (List.mem_cons_of_mem _ hv)) (some n)

end Value

namespace Record

theorem get?_remove_single (segment name : String) (r : Record) :
    Fields.get? (remove [segment] r) name = if segment = name then none else Fields.get? r name :=
  Fields.get?_erase r segment name

theorem remove_cons {path : Path} (longer : path ≠ []) (segment : String) (r : Record) :
    remove (segment :: path) r = r.map fun entry =>
      (entry.1, if entry.1 = segment then Value.without path entry.2 else entry.2) := by
  obtain ⟨next, rest, rfl⟩ := List.exists_cons_of_ne_nil longer
  apply List.map_congr_left
  rintro ⟨name, v⟩ _
  by_cases hname : name = segment
  · simp only [hname, ↓reduceIte]
    cases v with
    | arr items =>
      refine Prod.ext rfl (congrArg Value.arr (List.map_congr_left fun item _ => ?_))
      cases item <;> rfl
    | _ => rfl
  · simp only [hname, ↓reduceIte]

/-- A longer path changes the value at its first segment. -/
theorem get?_remove_cons {path : Path} (longer : path ≠ []) (segment name : String) (r : Record) :
    Fields.get? (remove (segment :: path) r) name
      = if segment = name then (Fields.get? r name).map (Value.without path)
        else Fields.get? r name := by
  rw [remove_cons longer]
  induction r with
  | nil => simp
  | cons entry more ih =>
    obtain ⟨other, v⟩ := entry
    rw [List.map_cons, Fields.get?_cons, Fields.get?_cons, ih]
    by_cases hother : other = name
    · by_cases hsegment : segment = name
      · simp [hother, hsegment]
      · simp [hother, hsegment, Ne.symm hsegment]
    · simp [hother]

/-- A field that the path does not begin with stays. -/
theorem get?_remove_of_ne {segment name : String} (h : segment ≠ name) (path : Path) (r : Record) :
    Fields.get? (remove (segment :: path) r) name = Fields.get? r name := by
  cases path with
  | nil => rw [get?_remove_single, if_neg h]
  | cons next rest => rw [get?_remove_cons (by simp), if_neg h]

end Record

namespace Value

open Record (remove)

/-- Nothing is left of a path inside a record, if nothing is left of its rest below its first
segment. -/
theorem reach_remove_of_below {segment : String} {rest : Path}
    (below : rest ≠ [] → ∀ v, reach (without rest v) rest = []) (fields : Record) :
    reach (obj (remove (segment :: rest) fields)) (segment :: rest) = [] := by
  rw [reach_obj]
  by_cases hrest : rest = []
  · rw [hrest, Record.get?_remove_single, if_pos rfl]
    rfl
  · rw [Record.get?_remove_cons hrest, if_pos rfl]
    cases Fields.get? fields segment with
    | none => rfl
    | some v => exact below hrest v

/-- Nothing is left of a path that was removed below a value. -/
theorem reach_without {names : Path} (nonempty : names ≠ [])
    (plain : ∀ segment ∈ names, Path.index? segment = none) (v : Value) :
    reach (without names v) names = [] := by
  induction names generalizing v with
  | nil => exact absurd rfl nonempty
  | cons segment rest ih =>
    have hrest : ∀ other ∈ rest, Path.index? other = none := fun other hother =>
      plain other (List.mem_cons_of_mem _ hother)
    have onRecord : ∀ fields : Record,
        reach (obj (remove (segment :: rest) fields)) (segment :: rest) = [] :=
      reach_remove_of_below fun hne w => ih hne hrest w
    cases v with
    | obj fields => exact onRecord fields
    | arr items =>
      rw [without, reach_arr_of_name (plain segment List.mem_cons_self)]
      induction items with
      | nil => rfl
      | cons item more ihItems =>
        rw [List.map_cons, reachRecords, ihItems, List.append_nil]
        cases item with
        | obj fields => rw [itemWithout, isRecord, if_pos rfl, onRecord fields]
        | _ => rfl
    | _ => simp [without, reach]

/-- What another path reaches inside a record stays, if it stays below a common first segment. -/
theorem reach_remove_of_same_below {first segment : String} {rest more : Path}
    (apart : Path.Apart (first :: rest) (segment :: more.named))
    (below : Path.Apart rest more.named → ∀ v, reach (without rest v) more = reach v more)
    (fields : Record) :
    reach (obj (remove (first :: rest) fields)) (segment :: more)
      = reach (obj fields) (segment :: more) := by
  rw [reach_obj, reach_obj]
  by_cases hsame : first = segment
  · subst hsame
    have hbelow := apart.tail
    rw [Record.get?_remove_cons hbelow.ne_nil, if_pos rfl]
    cases Fields.get? fields first with
    | none => rfl
    | some v => exact below hbelow v
  · rw [Record.get?_remove_of_ne hsame]

/-- What another path reaches stays when a path that parts from it is removed. -/
theorem reach_without_of_apart {names path : Path}
    (plain : ∀ segment ∈ names, Path.index? segment = none) (apart : names.Apart path.named)
    (v : Value) : reach (without names v) path = reach v path := by
  induction path generalizing names v with
  | nil => exact absurd rfl apart.ne_nil'
  | cons segment more ih =>
    obtain ⟨first, rest, rfl⟩ := List.exists_cons_of_ne_nil apart.ne_nil
    have hrest : ∀ other ∈ rest, Path.index? other = none := fun other hother =>
      plain other (List.mem_cons_of_mem _ hother)
    by_cases name : Path.index? segment = none
    · rw [Path.named_cons_of_name name] at apart
      have onRecord := reach_remove_of_same_below apart fun hbelow w => ih hrest hbelow w
      cases v with
      | obj fields => exact onRecord fields
      | arr items =>
        rw [without, reach_arr_of_name name, reach_arr_of_name name]
        exact reachRecords_map (isRecord_itemWithout _) fun fields _ => onRecord fields
      | _ => rfl
    · -- A position leads to an item, which loses the same path; as a name it is another field.
      have other : first ≠ segment := by
        rintro rfl
        exact name (plain first List.mem_cons_self)
      have onRecord : ∀ fields, reach (obj (remove (first :: rest) fields)) (segment :: more)
          = reach (obj fields) (segment :: more) := by
        intro fields
        rw [reach_obj, reach_obj, Record.get?_remove_of_ne other]
      rw [Path.named_cons_of_position name] at apart
      cases v with
      | obj fields => exact onRecord fields
      | arr items =>
        rw [without, reach, reach, reachIndex_map,
          reachRecords_map (isRecord_itemWithout _) fun fields _ => onRecord fields]
        intro item _
        cases item with
        | obj fields => exact ih plain apart (obj fields)
        | _ => rfl
      | _ => rfl

end Value

end RecordQuery
