import RecordQuery.Proofs.Pivot.Headers

/-!
# Columns are kept apart

The key of a column tells its segments, whatever texts they are. So a cell takes in the records of
one list of segments and no others.
-/

namespace RecordQuery

theorem ColumnKey.ofSegments_inj {a b : List String} (ha : a ≠ []) (hb : b ≠ []) :
    ofSegments a = ofSegments b ↔ a = b := by
  obtain ⟨c, a, rfl⟩ := List.exists_cons_of_ne_nil ha
  obtain ⟨d, b, rfl⟩ := List.exists_cons_of_ne_nil hb
  exact ⟨ofSegments_injective, fun same => by rw [same]⟩

namespace PivotLayout

/-- Two records have the same segment in every column dimension. -/
def SameColumn (p : PivotLayout) (r s : Record) : Prop :=
  ∀ d ∈ p.columns, d.segment p.blankText r = d.segment p.blankText s

instance (p : PivotLayout) (r s : Record) : Decidable (p.SameColumn r s) :=
  inferInstanceAs (Decidable (∀ d ∈ p.columns, _))

/-- The records in the column of a record. -/
def inColumnOf (p : PivotLayout) (records : List Record) (r : Record) : List Record :=
  records.filter fun s => p.SameColumn s r

variable {p : PivotLayout}

theorem columnKey_eq_iff_sameColumn (columned : p.columns ≠ []) (r s : Record) :
    p.columnKey r = p.columnKey s ↔ p.SameColumn r s := by
  rw [columnKey, columnKey, ColumnKey.ofSegments_inj (columnSegments_ne_nil columned)
    (columnSegments_ne_nil columned)]
  exact List.map_inj_left

theorem inColumn_columnKey (columned : p.columns ≠ []) (records : List Record) (r : Record) :
    p.inColumn records (p.columnKey r) = p.inColumnOf records r := by
  simp only [inColumn, inColumnOf, columnKey_eq_iff_sameColumn columned]

end PivotLayout

/-- The cell in the column of a record has taken in the records of this column. -/
theorem Cells.Holds.get?_columnKey {p : PivotLayout} {records : List Record} {cells : Cells}
    (h : Holds p records cells) (columned : p.columns ≠ []) {r : Record} (hr : r ∈ records) :
    Fields.get? cells.columns (p.columnKey r) = some (p.accumulators (p.inColumnOf records r)) := by
  have nonempty : p.inColumn records (p.columnKey r) ≠ [] :=
    PivotLayout.inColumn_ne_nil_iff.mpr ⟨r, hr, rfl⟩
  rw [h.column, if_neg nonempty, PivotLayout.inColumn_columnKey columned]

namespace PivotTable

/-- Keys of columns are equal exactly if all their segments are. So in every cell of a record, in
the grand totals as in each row above it, are the records that share its segments and no others. -/
theorem columns_apart {p : PivotLayout} {empty : PivotTable} (started : start p = .ok empty)
    (columned : p.columns ≠ []) :
    (∀ a b : List String, a.length = p.columns.length → b.length = p.columns.length →
      (ColumnKey.ofSegments a = ColumnKey.ofSegments b ↔ a = b)) ∧
    (∀ r s, p.columnKey r = p.columnKey s ↔ p.SameColumn r s) ∧
    ∀ records, ∀ r ∈ records,
      Fields.get? (records.foldl push empty).grand.columns (p.columnKey r)
        = some (p.accumulators (p.inColumnOf records r)) ∧
      ∀ keys key row,
        Fields.get? (RowNode.behind (records.foldl push empty).rows keys) key = some row →
        keys ++ [key] <+: p.rowKeys r →
          Fields.get? row.cells.columns (p.columnKey r)
            = some (p.accumulators (p.inColumnOf (p.under records (keys ++ [key])) r)) := by
  refine ⟨fun a b ha hb => ?_, PivotLayout.columnKey_eq_iff_sameColumn columned,
    fun records r hr => ?_⟩
  · have nonempty : ∀ segments : List String, segments.length = p.columns.length →
        segments ≠ [] := by
      rintro segments same rfl
      exact columned (List.eq_nil_of_length_eq_zero same.symm)
    exact ColumnKey.ofSegments_inj (nonempty a ha) (nonempty b hb)
  · have holds := Holds.of_start started records
    refine ⟨holds.grand.get?_columnKey columned hr, fun keys key row hrow below => ?_⟩
    have held := (holds.rows.row keys key row hrow).2
    exact held.get?_columnKey columned (List.mem_filter.mpr ⟨hr, by simpa using below⟩)

end PivotTable

namespace Deals

/-- Deals by region, in columns by their owner and status. -/
def byRegion : PivotLayout where
  rows := [⟨"region", "Region", "text", 0, none, none⟩]
  columns := [⟨"owner", "Owner", "text", none, none, none, none⟩,
    ⟨"status", "Status", "text", none, none, none, none⟩]
  values := [⟨"amount", .sum, "Amount", "number", none⟩]
  options := none
  blank := none

def placed (owner status : String) : Record :=
  [("region", .str "N"), ("owner", .str owner), ("status", .str status), ("amount", .int 1)]

/-- Without their escapes, the segments of both would be joined to one key. -/
def barred : List Record := [placed "a\\" "|b", placed "a\\|" "b"]

end Deals

/-- Separators and backslashes in their segments do not bring deals together. -/
theorem PivotTable.columns_apart_barred :
    ∃ empty, start Deals.byRegion = .ok empty ∧ Deals.byRegion.columns ≠ [] ∧
      Deals.byRegion.columnKey (Deals.placed "a\\" "|b")
        ≠ Deals.byRegion.columnKey (Deals.placed "a\\|" "b") ∧
      Fields.get? (Deals.barred.foldl push empty).grand.columns
          (Deals.byRegion.columnKey (Deals.placed "a\\" "|b"))
        = some (Deals.byRegion.accumulators [Deals.placed "a\\" "|b"]) := by
  have started : start Deals.byRegion = .ok _ := rfl
  have columned : Deals.byRegion.columns ≠ [] := by decide
  obtain ⟨_, same, cells⟩ := columns_apart started columned
  have apart : Deals.byRegion.columnKey (Deals.placed "a\\" "|b")
      ≠ Deals.byRegion.columnKey (Deals.placed "a\\|" "b") := fun h =>
    absurd ((same _ _).mp h) (by decide +kernel)
  have alone : Deals.byRegion.inColumnOf Deals.barred (Deals.placed "a\\" "|b")
      = [Deals.placed "a\\" "|b"] := by decide +kernel
  have among : Deals.placed "a\\" "|b" ∈ Deals.barred := List.mem_cons_self
  exact ⟨_, started, columned, apart, alone ▸ (cells _ _ among).1⟩

end RecordQuery
