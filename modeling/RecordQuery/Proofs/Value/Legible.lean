import RecordQuery.Proofs.Number.Notation
import RecordQuery.Proofs.Value.RoundTrip
import RecordQuery.Proofs.Value.Shape

/-!
# Values to be read back

What keeps a value from being read back is a number that is not, a name given twice, or its depth.
All three are told from the parts, so a value that a structure writes can be checked entry by entry.
-/

namespace RecordQuery

namespace Value

/-- The value can be read back wherever it may be as deep as that. -/
structure Legible (v : Value) (deepest : Nat) : Prop where
  numbers : v.NumbersReadBack
  distinct : v.Distinct
  shallow : v.depth ≤ deepest

variable {v : Value} {deepest : Nat}

theorem Legible.readsBack (h : v.Legible deepest) (shallow : deepest ≤ maxDepth) : v.ReadsBack :=
  readsBack_of_distinct h.numbers h.distinct (Nat.le_trans h.shallow shallow)

@[simp]
theorem legible_str (s : String) : (str s).Legible deepest := ⟨trivial, trivial, Nat.zero_le _⟩

@[simp]
theorem legible_bool (b : Bool) : (bool b).Legible deepest := ⟨trivial, trivial, Nat.zero_le _⟩

theorem legible_nat {n : Nat} (fits : n < Word.bound64) : (nat n).Legible deepest where
  numbers := Number.read?_text_int (by omega) (Int.ofNat_lt.mpr fits)
  distinct := trivial
  shallow := Nat.zero_le _

theorem legible_arr {items : List Value} (each : ∀ v ∈ items, v.Legible deepest) :
    (arr items).Legible (deepest + 1) := by
  have inside : NumbersReadBackList items ∧ depthList items ≤ deepest := by
    induction items with
    | nil => exact ⟨trivial, Nat.zero_le _⟩
    | cons v rest ih =>
      obtain ⟨numbers, shallow⟩ := ih fun w hw => each w (List.mem_cons_of_mem _ hw)
      have first := each v List.mem_cons_self
      exact ⟨⟨first.numbers, numbers⟩, Nat.max_le.mpr ⟨first.shallow, shallow⟩⟩
  exact ⟨inside.1, distinct_arr.mpr fun v hv => (each v hv).distinct, Nat.succ_le_succ inside.2⟩

theorem legible_obj {fields : Fields Value} (once : (Fields.names fields).Nodup)
    (each : ∀ entry ∈ fields, entry.2.Legible deepest) : (obj fields).Legible (deepest + 1) := by
  have inside : NumbersReadBackFields fields ∧ depthFields fields ≤ deepest := by
    clear once
    induction fields with
    | nil => exact ⟨trivial, Nat.zero_le _⟩
    | cons entry rest ih =>
      obtain ⟨numbers, shallow⟩ := ih fun other h => each other (List.mem_cons_of_mem _ h)
      have first := each entry List.mem_cons_self
      exact ⟨⟨first.numbers, numbers⟩, Nat.max_le.mpr ⟨first.shallow, shallow⟩⟩
  exact ⟨inside.1, distinct_obj.mpr ⟨once, fun entry h => (each entry h).distinct⟩,
    Nat.succ_le_succ inside.2⟩

section
variable {α : Type} {write : α → Value}

theorem legible_list {items : List α} (each : ∀ a ∈ items, (write a).Legible deepest) :
    (arr (items.map write)).Legible (deepest + 1) := by
  refine legible_arr fun v hv => ?_
  obtain ⟨a, ha, rfl⟩ := List.mem_map.mp hv
  exact each a ha

theorem legible_optional {o : Option α} (each : ∀ a ∈ o, (write a).Legible deepest) :
    ∀ v ∈ o.map write, v.Legible deepest := by
  intro v hv
  obtain ⟨a, ha, rfl⟩ := Option.map_eq_some_iff.mp hv
  exact each a ha

end

/-- Only the slots that are filled are written. -/
theorem legible_present {entries : List (String × Option Value)}
    (once : (entries.map (·.1)).Nodup)
    (each : ∀ entry ∈ entries, ∀ v ∈ entry.2, v.Legible deepest) :
    (obj (Shape.present entries)).Legible (deepest + 1) := by
  refine legible_obj (once.sublist (Shape.names_present_sublist entries)) fun entry hentry => ?_
  obtain ⟨slot, hslot, hwritten⟩ := List.mem_filterMap.mp hentry
  obtain ⟨v, hv, rfl⟩ := Option.map_eq_some_iff.mp hwritten
  exact each slot hslot v hv

end Value

end RecordQuery
