import RecordQuery.Proofs.Value.Ascending
import RecordQuery.Value.Shape

/-!
# Structures read back

A record that has been written from slots of different names is read slot by slot as what was put
in. Slots left out fall to their defaults.
-/

namespace RecordQuery

namespace Shape

theorem names_present_sublist (entries : List (String × Option Value)) :
    (Fields.names (present entries)).Sublist (entries.map (·.1)) := by
  induction entries with
  | nil => exact List.Sublist.refl []
  | cons entry rest ih =>
    obtain ⟨name, v⟩ := entry
    cases v with
    | none => exact ih.cons name
    | some v => exact ih.cons_cons name

theorem get?_present {entries : List (String × Option Value)}
    (once : (entries.map (·.1)).Nodup) {name : String} {v : Option Value}
    (mem : (name, v) ∈ entries) : Fields.get? (present entries) name = v := by
  induction entries with
  | nil => simp at mem
  | cons entry rest ih =>
    obtain ⟨other, w⟩ := entry
    obtain ⟨fresh, hrest⟩ := List.nodup_cons.mp once
    rcases List.mem_cons.mp mem with hsame | hmem
    · obtain ⟨rfl, rfl⟩ := Prod.mk.inj hsame
      cases v with
      | some v => simp [present, Fields.get?_cons]
      | none =>
        rw [show present ((name, none) :: rest) = present rest from rfl, Fields.get?_eq_none_iff]
        exact fun hname => fresh ((names_present_sublist rest).subset hname)
    · have apart : other ≠ name := by
        rintro rfl
        exact fresh (List.mem_map.mpr ⟨_, hmem, rfl⟩)
      cases w with
      | none => exact ih hrest hmem
      | some w =>
        rw [show present ((other, some w) :: rest) = (other, w) :: present rest from rfl,
          Fields.get?_cons, if_neg apart]
        exact ih hrest hmem

theorem contains_single (name other : String) : [name].contains other = (other == name) := by
  rw [List.contains_cons, List.contains_nil, Bool.or_false]

theorem find?_single (name : String) (fields : Fields Value) :
    find? [name] fields = Fields.get? fields name := by
  simp only [find?, Fields.get?, contains_single]

theorem occurrences_single {fields : Fields Value} (once : (Fields.names fields).Nodup)
    (name : String) : occurrences [name] fields ≤ 1 := by
  have counted : occurrences [name] fields = (Fields.names fields).count name := by
    rw [occurrences, Fields.names, List.count, List.countP_map, List.countP_eq_length_filter]
    simp only [contains_single]
    rfl
  rw [counted]
  exact List.nodup_iff_count.mp once name

/-- Every slot holds what was written for it. -/
theorem slots?_present (entries : List (String × Option Value))
    (once : (entries.map (·.1)).Nodup) :
    slots? (entries.map fun entry => [entry.1]) (.obj (present entries))
      = some (entries.map (·.2)) := by
  have present_once : (Fields.names (present entries)).Nodup :=
    once.sublist (names_present_sublist entries)
  have isSettled : settled (entries.map fun entry => [entry.1]) (present entries) = true := by
    rw [settled, List.all_map, List.all_eq_true]
    exact fun entry _ => decide_eq_true (occurrences_single present_once entry.1)
  rw [slots?, if_pos isSettled, List.map_map]
  congr 1
  refine List.map_congr_left fun entry hentry => ?_
  rw [Function.comp_apply, find?_single, get?_present once hentry]

section
variable {α : Type} {read : Value → Option α} {write : α → Value}

theorem list?_map (back : ∀ a, read (write a) = some a) (items : List α) :
    list? read (.arr (items.map write)) = some items := by
  rw [list?]
  induction items with
  | nil => rfl
  | cons a rest ih => simp [back a, ih]

/-- What is written is read back, and nothing where nothing was. -/
theorem fill_optional (back : ∀ a, read (write a) = some a) (notNull : ∀ a, write a ≠ .null)
    (o : Option α) : fill none (optional read) (o.map write) = some o := by
  cases o with
  | none => rfl
  | some a =>
    have : optional read (write a) = (read (write a)).map some := by
      cases h : write a with
      | null => exact absurd h (notNull a)
      | _ => rfl
    rw [Option.map_some, fill, this, back a]
    rfl

end

end Shape

end RecordQuery
