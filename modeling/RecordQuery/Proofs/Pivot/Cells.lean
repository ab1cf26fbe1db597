import RecordQuery.Pivot.Table
import RecordQuery.Proofs.Value.Ascending

/-!
# Cells aggregate records

Accumulators that have been pushed record by record hold what a fold over all the records gives: the
totals over every record, and each column over the records that fall into it.
-/

namespace RecordQuery

namespace PivotLayout

/-- One accumulator for each measure, over the records in the order they came. -/
def accumulators (p : PivotLayout) (records : List Record) : List Accumulator :=
  p.values.map fun m => .ofReadings (records.map fun r => Record.reading? r m.field)

/-- The result of each measure over the records, by measured field. -/
def results (p : PivotLayout) (records : List Record) : Value :=
  .obj (p.values.map fun m =>
    (m.field, .ofFloat ((Accumulator.ofReadings
      (records.map fun r => Record.reading? r m.field)).result m.aggregator)))

/-- The records that fall into a column. -/
def inColumn (p : PivotLayout) (records : List Record) (column : String) : List Record :=
  records.filter fun r => p.columnKey r = column

/-- The columns that occur, in ascending order, each with the results over its records. -/
def Tabulates (p : PivotLayout) (records : List Record) (v : Value) : Prop :=
  ∃ columns : List String, columns.Pairwise (· < ·) ∧
    (∀ column, column ∈ columns ↔ ∃ r ∈ records, p.columnKey r = column) ∧
    v = .obj (columns.map fun column => (column, p.results (p.inColumn records column)))

theorem inColumn_append (p : PivotLayout) (records : List Record) (r : Record) (column : String) :
    p.inColumn (records ++ [r]) column
      = if p.columnKey r = column then p.inColumn records column ++ [r]
        else p.inColumn records column := by
  rw [inColumn, List.filter_append]
  by_cases hcolumn : p.columnKey r = column
  · simp [hcolumn, inColumn]
  · simp [hcolumn, inColumn]

theorem inColumn_ne_nil_iff {p : PivotLayout} {records : List Record} {column : String} :
    p.inColumn records column ≠ [] ↔ ∃ r ∈ records, p.columnKey r = column := by
  simp [inColumn]

/-- Without records, every accumulator is empty. -/
theorem accumulators_nil (p : PivotLayout) :
    p.accumulators [] = List.replicate p.values.length .empty := by
  rw [accumulators, ← List.map_const']
  rfl

theorem length_readings (p : PivotLayout) (r : Record) :
    (p.readings r).length = p.values.length := by
  simp [readings]

/-- Each measure takes its own reading. -/
theorem pushAll_accumulators (p : PivotLayout) (records : List Record) (r : Record) :
    Cells.pushAll (p.accumulators records) (p.readings r) = p.accumulators (records ++ [r]) := by
  rw [Cells.pushAll, accumulators, accumulators, readings, List.zipWith_map, List.zipWith_self]
  simp [Accumulator.ofReadings]

theorem resultsValue_accumulators {p : PivotLayout} (distinct : (p.values.map (·.field)).Nodup)
    (records : List Record) :
    Cells.resultsValue p.values (p.accumulators records) = p.results records := by
  rw [Cells.resultsValue, accumulators, List.zipWith_map_right, List.zipWith_self,
    Fields.collapse_of_nodup]
  · rfl
  · simpa [Fields.names, Function.comp_def] using distinct

end PivotLayout

namespace Cells

/-- The cells hold the records: their totals over all of them, and a column where one falls in. -/
structure Holds (p : PivotLayout) (records : List Record) (cells : Cells) : Prop where
  totals : cells.totals = p.accumulators records
  ascending : cells.columns.Ascending
  column : ∀ column, Fields.get? cells.columns column
    = if p.inColumn records column = [] then none
      else some (p.accumulators (p.inColumn records column))

variable {p : PivotLayout} {records : List Record} {cells : Cells}

theorem Holds.empty (p : PivotLayout) : Holds p [] (Cells.empty p.values.length) where
  totals := p.accumulators_nil.symm
  ascending := Fields.ascending_nil
  column := fun _ => rfl

/-- A record adds to the totals and to its own column. -/
theorem Holds.push (h : Holds p records cells) (r : Record) :
    Holds p (records ++ [r]) (cells.push (p.columnKey r) (p.readings r)) where
  totals := by
    rw [Cells.push, h.totals, p.pushAll_accumulators]
  ascending := h.ascending.adjust _ _
  column := by
    intro column
    rw [Cells.push, h.ascending.get?_adjust, p.inColumn_append]
    by_cases hcolumn : p.columnKey r = column
    · subst hcolumn
      have before : (Fields.get? cells.columns (p.columnKey r)).getD
          (List.replicate (p.readings r).length .empty)
            = p.accumulators (p.inColumn records (p.columnKey r)) := by
        rw [h.column]
        split
        · rename_i hnone
          rw [Option.getD_none, hnone, p.length_readings, p.accumulators_nil]
        · rfl
      rw [if_pos rfl, if_pos rfl, if_neg (by simp), before, p.pushAll_accumulators]
    · rw [if_neg hcolumn, if_neg hcolumn, h.column]

/-- A column is kept if and only if a record falls into it. -/
theorem Holds.mem_names_iff (h : Holds p records cells) {column : String} :
    column ∈ Fields.names cells.columns ↔ ∃ r ∈ records, p.columnKey r = column := by
  rw [Fields.mem_names_iff_get?, ← PivotLayout.inColumn_ne_nil_iff, h.column]
  simp

/-- What cells show is the table of their records. -/
theorem Holds.tabulates (h : Holds p records cells) (distinct : (p.values.map (·.field)).Nodup) :
    p.Tabulates records (cells.columnsValue p.values) := by
  refine ⟨Fields.names cells.columns, h.ascending, fun column => h.mem_names_iff, ?_⟩
  rw [columnsValue, Fields.names, List.map_map]
  congr 1
  refine List.map_congr_left fun entry hentry => ?_
  obtain ⟨column, accumulators⟩ := entry
  have hget := Fields.get?_of_mem h.ascending.nodup hentry
  rw [h.column] at hget
  split at hget
  · cases hget
  · obtain rfl := Option.some.inj hget
    exact congrArg (column, ·) (PivotLayout.resultsValue_accumulators distinct _)

theorem Holds.totalsValue (h : Holds p records cells) (distinct : (p.values.map (·.field)).Nodup) :
    cells.totalsValue p.values = p.results records := by
  rw [Cells.totalsValue, h.totals, PivotLayout.resultsValue_accumulators distinct]

end Cells

end RecordQuery
