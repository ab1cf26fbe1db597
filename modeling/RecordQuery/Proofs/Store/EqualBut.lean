import Mathlib.Data.List.Forall2
import RecordQuery.Proofs.Store.Projection
import RecordQuery.Proofs.Store.Reflects
import RecordQuery.Proofs.Value.EqualBut

/-!
# Finding among records that differ in one field

A predicate that ignores the field keeps the same positions, and keys that begin elsewhere sort them
alike. So two memories whose records differ in one field select records that differ in that field, in
the same order, and what a projection makes of them differs there at most.
-/

namespace RecordQuery

namespace Predicate

/-- The outcome does not depend on the entry under the name. -/
def Ignores (p : Predicate) (name : String) : Prop :=
  ∀ r s, Record.EqualBut name r s → p.holds r = p.holds s

theorem ignores_field {path name : String} (apart : Path.root path ≠ name) (test : FieldTest) :
    (field path test).Ignores name := by
  intro r s h
  rw [holds, holds, h.reach apart]

theorem allHold_congr {name : String} {parts : List Predicate}
    (ignores : ∀ p ∈ parts, p.Ignores name) {r s : Record} (h : Record.EqualBut name r s) :
    allHold parts r = allHold parts s := by
  induction parts with
  | nil => rfl
  | cons p rest ih =>
    rw [allHold, allHold, ignores p List.mem_cons_self r s h,
      ih fun other hother => ignores other (List.mem_cons_of_mem _ hother)]

theorem anyHolds_congr {name : String} {parts : List Predicate}
    (ignores : ∀ p ∈ parts, p.Ignores name) {r s : Record} (h : Record.EqualBut name r s) :
    anyHolds parts r = anyHolds parts s := by
  induction parts with
  | nil => rfl
  | cons p rest ih =>
    rw [anyHolds, anyHolds, ignores p List.mem_cons_self r s h,
      ih fun other hother => ignores other (List.mem_cons_of_mem _ hother)]

theorem ignores_all {name : String} {parts : List Predicate}
    (ignores : ∀ p ∈ parts, p.Ignores name) : (all parts).Ignores name := by
  intro r s h
  rw [holds, holds, allHold_congr ignores h]

theorem ignores_any {name : String} {parts : List Predicate}
    (ignores : ∀ p ∈ parts, p.Ignores name) : (any parts).Ignores name := by
  intro r s h
  rw [holds, holds, anyHolds_congr ignores h]

end Predicate

namespace Record

/-- What the rest of a path takes away from the value under its first segment. -/
def pruned (rest : Path) : Value → Value
  | .obj child => .obj (remove rest child)
  | .arr items => .arr (items.map fun item =>
      match item with
      | .obj child => .obj (remove rest child)
      | other => other)
  | other => other

theorem get?_remove_nested (r : Record) (segment next : String) (rest : Path) (name : String) :
    Fields.get? (remove (segment :: next :: rest) r) name
      = if segment = name then (Fields.get? r name).map (pruned (next :: rest))
        else Fields.get? r name := by
  rw [remove]
  · induction r with
    | nil => simp
    | cons entry others ih =>
      obtain ⟨other, v⟩ := entry
      rw [List.map_cons]
      by_cases hother : other = segment
      · subst hother
        by_cases hname : other = name
        · subst hname
          cases v with
          | arr items =>
            simp only [Fields.get?_cons, ↓reduceIte, Option.map_some]
            refine congrArg (fun items => some (Value.arr items))
              (List.map_congr_left fun item _ => ?_)
            cases item <;> rfl
          | _ => simp [Fields.get?_cons, pruned]
        · simp only [hname, ↓reduceIte, Fields.get?_cons] at ih ⊢
          exact ih
      · simp only [hother, ↓reduceIte, Fields.get?_cons, ih]
        by_cases hname : other = name
        · simp [hname ▸ Ne.symm hother, hname]
        · simp [hname]
  · simp

namespace EqualBut

variable {name : String} {r s : Record}

theorem remove (h : EqualBut name r s) (path : Path) :
    EqualBut name (Record.remove path r) (Record.remove path s) := by
  intro other hother
  match path with
  | [] => exact h other hother
  | [segment] =>
    rw [Record.remove, Record.remove, Fields.get?_erase, Fields.get?_erase, h other hother]
  | segment :: next :: rest => rw [get?_remove_nested, get?_remove_nested, h other hother]

theorem addPath (h : EqualBut name r s) {done done' : Record} (hdone : EqualBut name done done')
    (path : String) :
    EqualBut name (Projection.addPath r done path) (Projection.addPath s done' path) := by
  intro other hother
  rw [Projection.get?_addPath, Projection.get?_addPath, hdone other hother]
  by_cases hroot : Path.root path = other
  · have : Projection.selected r path = Projection.selected s path := by
      rw [Projection.selected, Projection.selected, hroot, h other hother]
    rw [this]
  · rw [if_neg hroot, if_neg hroot]

/-- Each entry of a projected record comes from the stored entry of its name. -/
theorem apply (h : EqualBut name r s) (p : Projection) : EqualBut name (p.apply r) (p.apply s) := by
  cases p with
  | all => exact h
  | only paths =>
    have start : EqualBut name (Projection.start r) (Projection.start s) := by
      intro other hother
      rw [Projection.get?_start, Projection.get?_start]
      split
      · rename_i hid
        exact hid ▸ h other hother
      · rfl
    rw [Projection.apply_only, Projection.apply_only]
    generalize Projection.start r = done at start ⊢
    generalize Projection.start s = done' at start ⊢
    induction paths generalizing done done' with
    | nil => exact start
    | cons path rest ih => exact ih _ _ (h.addPath start path)
  | «except» paths =>
    rw [Projection.apply, Projection.apply]
    induction paths generalizing r s with
    | nil => exact h
    | cons path rest ih => exact ih (h.remove (Path.ofText path))

end EqualBut

end Record

theorem Projection.get?_apply_except_of_mem {names : NameSet} {name : String} (mem : name ∈ names)
    (plain : '.' ∉ name.toList) (r : Record) :
    Fields.get? ((Projection.except names).apply r) name = none := by
  -- What is gone stays gone, and the name itself is on the list.
  have gone : ∀ (names : NameSet) (r : Record), Fields.get? r name = none →
      Fields.get? (names.foldl (fun done path => Record.remove (Path.ofText path) done) r) name
        = none := by
    intro names
    induction names with
    | nil => exact fun r h => h
    | cons first rest ih =>
      intro r h
      refine ih _ ?_
      dsimp only
      rw [Path.ofText_eq]
      cases Path.below first with
      | nil => simp [Record.remove, Fields.get?_erase, h]
      | cons next others => simp [Record.get?_remove_nested, h]
  rw [Projection.apply]
  induction names generalizing r with
  | nil => simp at mem
  | cons first rest ih =>
    rw [List.foldl_cons]
    rcases List.mem_cons.mp mem with rfl | mem
    · refine gone rest _ ?_
      rw [Path.ofText_of_plain plain, Record.remove, Fields.get?_erase, if_pos rfl]
    · exact ih mem _

section
variable {α β : Type} {R : α → β → Prop}

/-- Related items in related places stay together when both lists are sorted alike. -/
theorem forall₂_mergeSort {left : α → α → Bool} {right : β → β → Bool}
    (alike : ∀ a b c d, R a b → R c d → left a c = right b d) {as : List α} {bs : List β}
    (h : List.Forall₂ R as bs) : List.Forall₂ R (as.mergeSort left) (bs.mergeSort right) := by
  obtain ⟨hlength, related⟩ := List.forall₂_iff_zip.mp h
  -- Both results are read off the sorted list of pairs.
  let pairs := as.zip bs
  let sorted := pairs.mergeSort fun p q => left p.1 q.1
  have lefts : sorted.map Prod.fst = as.mergeSort left := by
    have hmap : pairs.map Prod.fst = as := List.map_fst_zip (Nat.le_of_eq hlength)
    rw [← hmap]
    exact List.map_mergeSort fun p _ q _ => rfl
  have rights : sorted.map Prod.snd = bs.mergeSort right := by
    have hmap : pairs.map Prod.snd = bs := List.map_snd_zip (Nat.le_of_eq hlength.symm)
    rw [← hmap]
    exact List.map_mergeSort fun p hp q hq => alike _ _ _ _ (related hp) (related hq)
  rw [← lefts, ← rights, List.forall₂_map_left_iff, List.forall₂_map_right_iff, List.forall₂_same]
  exact fun p hp => related (List.mem_mergeSort.mp hp)

end

namespace Memory

/-- The memories hold as many records of the document, which differ in one field at most. -/
def EqualBut (name document : String) (m m' : Memory) : Prop :=
  List.Forall₂ (Record.EqualBut name) (m.records document) (m'.records document)

variable {name document : String} {m m' : Memory}

theorem EqualBut.matching (h : EqualBut name document m m') {p : Predicate}
    (ignores : p.Ignores name) :
    List.Forall₂ (Record.EqualBut name) (m.matching document p) (m'.matching document p) :=
  List.rel_filter (fun r s hrs => by simp [ignores r s hrs]) h

theorem EqualBut.select (h : EqualBut name document m m') {plan : FindPlan} {p : Predicate}
    (ignores : p.Ignores name) (apart : ∀ key ∈ plan.sort, Path.root key.field ≠ name) :
    List.Forall₂ (Record.EqualBut name) (m.select document plan p) (m'.select document plan p) := by
  have found := h.matching ignores
  have ordered : List.Forall₂ (Record.EqualBut name)
      (if plan.sort.isEmpty then m.matching document p
        else Record.sort plan.sort (m.matching document p))
      (if plan.sort.isEmpty then m'.matching document p
        else Record.sort plan.sort (m'.matching document p)) := by
    split
    · exact found
    · exact forall₂_mergeSort (fun a b c d hab hcd => by rw [hab.compare apart hcd]) found
  rw [Memory.select, Memory.select]
  cases plan.limit with
  | none => exact List.forall₂_drop _ ordered
  | some limit => exact List.forall₂_take _ (List.forall₂_drop _ ordered)

theorem EqualBut.count (h : EqualBut name document m m') {query : Value} {p : Predicate}
    (hread : Query.read query = .ok p) (ignores : p.Ignores name) :
    m.count document query = m'.count document query := by
  rw [count_of_read hread, count_of_read hread, (h.matching ignores).length_eq]

end Memory

end RecordQuery
