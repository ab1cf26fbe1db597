import RecordQuery.Value.Order

/-!
# Records have one stable order

The order of sorting is total and transitive under any keys. So there is only one way to put records
in ascending order that leaves those which no key tells apart as they came, and a stable sort is it.
-/

namespace RecordQuery

section
variable {α β : Type}

/-- The items in ascending order, and those that compare equal in the order they had. -/
structure StableOrder (cmp : α → α → Ordering) (found sorted : List α) : Prop where
  ascending : sorted.Pairwise fun a b => (cmp a b).isLE
  ties : ∀ a, (sorted.filter fun b => cmp a b = .eq) = found.filter fun b => cmp a b = .eq

theorem transCmp_on (cmp : β → β → Ordering) [Std.TransCmp cmp] (f : α → β) :
    Std.TransCmp fun a b => cmp (f a) (f b) where
  eq_swap := Std.OrientedCmp.eq_swap
  isLE_trans := Std.TransCmp.isLE_trans

variable {cmp : α → α → Ordering} [Std.TransCmp cmp]

/-- Ascending lists that agree on every tie are the same. -/
theorem eq_of_ties {xs ys : List α} (hxs : xs.Pairwise fun a b => (cmp a b).isLE)
    (hys : ys.Pairwise fun a b => (cmp a b).isLE)
    (ties : ∀ a, (xs.filter fun b => cmp a b = .eq) = ys.filter fun b => cmp a b = .eq) :
    xs = ys := by
  -- What one list holds, the other holds too: it is among its own ties.
  have shared : ∀ {us vs : List α}, (∀ a, (us.filter fun b => cmp a b = .eq)
      = vs.filter fun b => cmp a b = .eq) → ∀ a ∈ us, a ∈ vs := by
    intro us vs same a ha
    have among : a ∈ us.filter fun b => cmp a b = .eq := by
      simpa [Std.ReflCmp.compare_self] using ha
    rw [same] at among
    exact (List.mem_filter.mp among).1
  have least : ∀ {u v : α} {us : List α}, (u :: us).Pairwise (fun a b => (cmp a b).isLE) →
      v ∈ u :: us → (cmp u v).isLE := by
    intro u v us h hv
    rcases List.mem_cons.mp hv with rfl | hv
    · exact Std.ReflCmp.isLE_rfl
    · exact (List.pairwise_cons.mp h).1 v hv
  induction xs generalizing ys with
  | nil =>
    cases ys with
    | nil => rfl
    | cons y ys => exact absurd (shared (fun a => (ties a).symm) y (by simp)) (by simp)
  | cons x xs ih =>
    cases ys with
    | nil => exact absurd (shared ties x (by simp)) (by simp)
    | cons y ys =>
      have hxy : (cmp x y).isLE := least hxs (shared (fun a => (ties a).symm) y (by simp))
      have hyx : (cmp y x).isLE := least hys (shared ties x (by simp))
      have tied : cmp x y = .eq := Std.OrientedCmp.isLE_antisymm hxy hyx
      have firsts := ties x
      rw [List.filter_cons_of_pos (by simpa using Std.ReflCmp.compare_self),
        List.filter_cons_of_pos (by simpa using tied)] at firsts
      obtain rfl := (List.cons.inj firsts).1
      have rest : xs = ys := by
        refine ih (List.pairwise_cons.mp hxs).2 (List.pairwise_cons.mp hys).2 fun a => ?_
        have both := ties a
        by_cases hax : cmp a x = .eq
        · rw [List.filter_cons_of_pos (by simpa using hax),
            List.filter_cons_of_pos (by simpa using hax)] at both
          exact (List.cons.inj both).2
        · rwa [List.filter_cons_of_neg (by simpa using hax),
            List.filter_cons_of_neg (by simpa using hax)] at both
      rw [rest]

theorem StableOrder.unique {found xs ys : List α} (hxs : StableOrder cmp found xs)
    (hys : StableOrder cmp found ys) : xs = ys :=
  eq_of_ties hxs.ascending hys.ascending fun a => (hxs.ties a).trans (hys.ties a).symm

theorem stableOrder_mergeSort (found : List α) :
    StableOrder cmp found (found.mergeSort fun a b => cmp a b != .gt) := by
  have isLE : ∀ {a b : α}, (cmp a b != .gt) = (cmp a b).isLE := by
    intro a b
    cases cmp a b <;> rfl
  have trans : ∀ a b c : α, (cmp a b != .gt) = true → (cmp b c != .gt) = true →
      (cmp a c != .gt) = true := by
    intro a b c hab hbc
    rw [isLE] at hab hbc ⊢
    exact Std.TransCmp.isLE_trans hab hbc
  have total : ∀ a b : α, (cmp a b != .gt || cmp b a != .gt) = true := by
    intro a b
    have swapped : cmp b a = (cmp a b).swap := Std.OrientedCmp.eq_swap
    rw [swapped]
    cases cmp a b <;> rfl
  have perm := List.mergeSort_perm found fun a b => cmp a b != .gt
  refine ⟨?_, fun a => ?_⟩
  · exact (List.pairwise_mergeSort trans total found).imp fun h => isLE ▸ h
  · -- The tied items are an ascending part of the whole, and sorting keeps such a part in place.
    have tied : (found.filter fun b => cmp a b = .eq).Pairwise fun b c => (cmp b c != .gt) := by
      refine List.pairwise_iff_forall_sublist.mpr ?_
      intro b c hbc
      have hb : cmp a b = .eq := by simpa using (List.mem_filter.mp (hbc.subset (by simp))).2
      have hc : cmp a c = .eq := by simpa using (List.mem_filter.mp (hbc.subset (by simp))).2
      have hba : cmp b a = .eq := Std.OrientedCmp.eq_symm hb
      have : cmp b c = .eq := Std.TransCmp.eq_trans hba hc
      simp [this]
    have kept := List.sublist_mergeSort trans total tied List.filter_sublist
    have inside := kept.filter fun b => decide (cmp a b = .eq)
    rw [List.filter_filter] at inside
    simp only [Bool.and_self] at inside
    exact (inside.eq_of_length (perm.filter _).length_eq.symm).symm

end

namespace Instant

theorem compare_eq_lex :
    Instant.compare = compareLex (compareOn (·.seconds)) (compareOn (·.nanos)) := by
  funext a b
  rw [Instant.compare, compareLex, compareOn, compareOn]
  rcases Int.lt_trichotomy a.seconds b.seconds with before | same | after
  · rw [if_pos before, Int.compare_eq_lt.mpr before]
    rfl
  · rw [same, if_neg (Int.lt_irrefl _), if_neg (Int.lt_irrefl _), Int.compare_eq_eq.mpr rfl]
    rfl
  · rw [if_neg (Int.not_lt.mpr (Int.le_of_lt after)), if_pos after, Int.compare_eq_gt.mpr after]
    rfl

instance : Std.TransCmp Instant.compare := by
  rw [compare_eq_lex]
  infer_instance

theorem compare_eq_iff {a b : Instant} : a.compare b = .eq ↔ a = b := by
  obtain ⟨s, n⟩ := a
  obtain ⟨s', n'⟩ := b
  rw [Instant.compare, Instant.mk.injEq]
  dsimp only
  split
  · simp only [reduceCtorEq, false_iff]
    omega
  · split
    · simp only [reduceCtorEq, false_iff]
      omega
    · rw [Nat.compare_eq_eq]
      omega

end Instant

namespace SortKind

/-! What tells values of one kind apart; of another kind, it is the same for all. -/

def truth : SortKind → Bool
  | bool b => b
  | _ => false

def size : SortKind → Int
  | number key => key
  | _ => 0

def words : SortKind → String
  | text s => s
  | _ => ""

def moment : SortKind → Instant
  | date t => t
  | _ => ⟨0, 0⟩

theorem compare_of_rank_ne {a b : SortKind} (h : a.rank ≠ b.rank) :
    a.compare b = Ord.compare a.rank b.rank := by
  -- Different kinds are compared by rank as they stand; the same kind has the same rank.
  cases a <;> cases b <;> first | rfl | exact absurd rfl h

/-- The kind comes first, and then what tells its values apart. -/
theorem compare_eq_lex :
    SortKind.compare = compareLex (compareOn rank) (compareLex (compareOn truth)
      (compareLex (compareOn size) (compareLex (compareOn words)
        fun a b => a.moment.compare b.moment))) := by
  funext a b
  by_cases hrank : a.rank = b.rank
  · have refl : ∀ t : Instant, t.compare t = .eq := fun t => Std.ReflCmp.compare_self
    have last : ∀ o : Ordering, o.then .eq = o := by
      intro o
      cases o <;> rfl
    have bools : ∀ x y, SortKind.compare (bool x) (bool y) = Ord.compare x y := fun _ _ => rfl
    have numbers : ∀ x y, SortKind.compare (number x) (number y) = Ord.compare x y :=
      fun _ _ => rfl
    have texts : ∀ x y, SortKind.compare (text x) (text y) = Ord.compare x y := fun _ _ => rfl
    have dates : ∀ x y, SortKind.compare (date x) (date y) = x.compare y := fun _ _ => rfl
    have absents : SortKind.compare absent absent = .eq := rfl
    have lists : SortKind.compare list list = .eq := rfl
    have records : SortKind.compare record record = .eq := rfl
    cases a <;> cases b <;> simp [rank] at hrank
    all_goals
      simp [compareLex, compareOn, rank, truth, size, words, moment, refl, last, bools, numbers,
        texts, dates, absents, lists, records]
  · have decides : Ord.compare a.rank b.rank ≠ .eq := fun h => hrank (Nat.compare_eq_eq.mp h)
    rw [compare_of_rank_ne hrank, compareLex, compareOn]
    cases hcompare : Ord.compare a.rank b.rank with
    | lt => rfl
    | gt => rfl
    | eq => exact absurd hcompare decides

instance : Std.TransCmp SortKind.compare := by
  rw [compare_eq_lex]
  have := transCmp_on Instant.compare moment
  infer_instance

end SortKind

namespace Record

instance (keys : List SortKey) : Std.TransCmp (Record.compare keys) := by
  induction keys with
  | nil =>
    have tied : Std.OrientedCmp (Record.compare []) := ⟨rfl⟩
    exact ⟨fun _ _ => rfl⟩
  | cons key rest ih =>
    let found (r : Record) := SortKind.of (descend? r (Path.ofText key.field))
    have byKey : Std.TransCmp fun a b : Record =>
        key.direction.apply (SortKind.compare (found a) (found b)) := by
      cases key.direction with
      | ascending => exact transCmp_on SortKind.compare found
      | descending =>
        have swapped : (fun a b : Record => (SortKind.compare (found a) (found b)).swap)
            = fun a b => SortKind.compare (found b) (found a) := by
          funext a b
          exact Std.OrientedCmp.eq_swap.symm
        have := transCmp_on SortKind.compare found
        exact swapped ▸ Std.TransCmp.opposite
    exact inferInstanceAs (Std.TransCmp (compareLex (fun a b : Record =>
      key.direction.apply (SortKind.compare (found a) (found b))) (Record.compare rest)))

/-- Sorting gives the one stable order there is. -/
theorem stableOrder_iff {keys : List SortKey} {found sorted : List Record} :
    StableOrder (Record.compare keys) found sorted ↔ sorted = Record.sort keys found := by
  constructor
  · intro h
    exact h.unique (stableOrder_mergeSort found)
  · rintro rfl
    exact stableOrder_mergeSort found

/-- Without keys all records are tied and stay as they came. -/
theorem sort_nil (found : List Record) : Record.sort [] found = found := by
  have asFound : StableOrder (Record.compare []) found found :=
    ⟨List.pairwise_of_forall fun _ _ => rfl, fun _ => rfl⟩
  exact (stableOrder_iff.mp asFound).symm

end Record

end RecordQuery
