import RecordQuery.Proofs.Store.Reflects

/-!
# Pages of one list

Whatever is skipped and however few records are allowed, a memory reads its answers off one list: the
matching records in their stable order. Pages that follow each other make up the whole list again.
-/

namespace RecordQuery

section
variable {α : Type}

/-- The part of a list that is left when some items are skipped and no more than a limit are taken. -/
def window (skip : Nat) (limit : Option Nat) (items : List α) : List α :=
  match limit with
  | some limit => (items.drop skip).take limit
  | none => items.drop skip

/-- Pages of one size, one behind the other, are what comes first in the list. -/
theorem flatten_windows (items : List α) (size pages : Nat) :
    ((List.range pages).map fun page => window (page * size) (some size) items).flatten
      = items.take (pages * size) := by
  induction pages with
  | zero => simp
  | succ pages ih =>
    rw [List.range_succ, List.map_append, List.flatten_append, ih, Nat.succ_mul, List.take_add]
    simp [window]

end

namespace Memory

/-- A page of what a query finds; pages are numbered from zero. -/
def page (m : Memory) (document : String) (query : Value) (keys : List SortKey)
    (projection : Projection) (size number : Nat) : Except StoreError Cursor :=
  m.find document ⟨query, keys, number * size, some size, projection⟩

/-- What a plan selects is a window on the sorted records. -/
theorem select_eq_window (m : Memory) (document : String) (plan : FindPlan) (p : Predicate) :
    m.select document plan p
      = window plan.skip plan.limit (Record.sort plan.sort (m.matching document p)) := by
  have ordered : (if plan.sort.isEmpty then m.matching document p
      else Record.sort plan.sort (m.matching document p))
        = Record.sort plan.sort (m.matching document p) := by
    cases plan.sort with
    | nil => exact (Record.sort_nil _).symm
    | cons key rest => rfl
  rw [select, ordered]
  cases plan.limit <;> rfl

/-- A memory has one sorted list for each query and keys. Its cursors hand out a window on that list,
projected, and end; it counts that list; and its pages of any size are the whole list, each record
once. -/
theorem find_pages (m : Memory) (document : String) {query : Value} {p : Predicate}
    (read : Query.read query = .ok p) (keys : List SortKey) :
    ∃ sorted : List Record,
      (∀ other, StableOrder (Record.compare keys) (m.matching document p) other ↔
        other = sorted) ∧
      m.count document query = .ok sorted.length ∧
      (∀ skip limit (projection : Projection),
        m.find document ⟨query, keys, skip, limit, projection⟩
          = .ok ((window skip limit sorted).map fun r => .ok (projection.apply r)) ∧
        ∀ asked, ((m.openCursor document ⟨query, keys, skip, limit, projection⟩ p).after
            asked).next.1
          = ((window skip limit sorted).map projection.apply)[asked]?) ∧
      ∀ (projection : Projection) size pages, sorted.length ≤ pages * size →
        ((List.range pages).mapM (m.page document query keys projection size)).map List.flatten
          = .ok (sorted.map fun r => .ok (projection.apply r)) := by
  have selected : ∀ skip limit projection,
      m.select document ⟨query, keys, skip, limit, projection⟩ p
        = window skip limit (Record.sort keys (m.matching document p)) :=
    fun skip limit projection => m.select_eq_window document _ p
  have found : ∀ skip limit (projection : Projection),
      m.find document ⟨query, keys, skip, limit, projection⟩
        = .ok ((window skip limit (Record.sort keys (m.matching document p))).map
            fun r => .ok (projection.apply r)) := by
    intro skip limit projection
    rw [find_of_read read, selected, List.map_map]
    rfl
  refine ⟨Record.sort keys (m.matching document p), fun other => Record.stableOrder_iff, ?_, ?_, ?_⟩
  · rw [count_of_read read, Record.sort, List.length_mergeSort]
  · intro skip limit projection
    refine ⟨found skip limit projection, fun asked => ?_⟩
    rw [MemoryCursor.next_after, remaining_openCursor, selected]
  · intro projection size pages enough
    let onPage number :=
      window (number * size) (some size) (Record.sort keys (m.matching document p))
    let answer (r : Record) : Except StoreError Record := .ok (projection.apply r)
    have each : m.page document query keys projection size
        = fun number => pure ((onPage number).map answer) :=
      funext fun number => found (number * size) (some size) projection
    have whole : ((List.range pages).map onPage).flatten
        = Record.sort keys (m.matching document p) := by
      rw [flatten_windows, List.take_of_length_le enough]
    have answers : ((List.range pages).map fun number => (onPage number).map answer).flatten
        = (Record.sort keys (m.matching document p)).map answer := by
      rw [← whole, List.map_flatten, List.map_map]
      rfl
    rw [each, List.mapM_pure]
    exact congrArg Except.ok answers

end Memory

namespace Deals

/-- Three deals, two of them for the same amount. -/
def amounts : Memory :=
  [("Deal", [[("_id", .str "d1"), ("amount", .int 2)], [("_id", .str "d2"), ("amount", .int 1)],
    [("_id", .str "d3"), ("amount", .int 2)]])]

end Deals

/-- Two pages of two hold all three deals, whatever is found first. -/
theorem Memory.find_pages_amounts :
    ∃ p sorted, Query.read (.obj []) = .ok p ∧
      StableOrder (Record.compare [⟨"amount", .descending⟩]) (Deals.amounts.matching "Deal" p)
        sorted ∧
      sorted.length = 3 ∧
      ((List.range 2).mapM
          (Deals.amounts.page "Deal" (.obj []) [⟨"amount", .descending⟩] .all 2)).map List.flatten
        = .ok (sorted.map fun r => .ok r) := by
  have read : Query.read (.obj []) = .ok _ := rfl
  obtain ⟨sorted, order, count, _, pages⟩ :=
    find_pages Deals.amounts "Deal" read [⟨"amount", .descending⟩]
  have three : sorted.length = 3 := by
    have : Deals.amounts.count "Deal" (.obj []) = .ok 3 := rfl
    exact Except.ok.inj (count.symm.trans this)
  exact ⟨_, sorted, read, (order sorted).mpr rfl, three, pages .all 2 2 (by omega)⟩

end RecordQuery
