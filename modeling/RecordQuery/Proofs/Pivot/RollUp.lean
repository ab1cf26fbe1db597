import Mathlib.Data.List.Forall2
import Mathlib.Data.List.Nodup
import RecordQuery.Proofs.Aggregation.Accumulator
import RecordQuery.Proofs.Pivot.Table

/-!
# Totals roll up

The records of a row fall apart into its columns, and unless it is a leaf into its children: each
record into exactly one. Every accumulator counts the records it is over and holds what their
readings come to. So what a row keeps is what its columns keep together, and what its children keep
together, in total and cell by cell. The whole table is above its first rows as a row is above its
children.
-/

namespace RecordQuery

/-- Items fall apart by a label that each of them has. -/
theorem perm_flatMap_filter {α β : Type} [DecidableEq β] {label : α → β} {labels : List β}
    (once : labels.Nodup) {items : List α} (covered : ∀ a ∈ items, label a ∈ labels) :
    items.Perm (labels.flatMap fun b => items.filter fun a => label a = b) := by
  induction labels generalizing items with
  | nil =>
    obtain rfl := List.eq_nil_iff_forall_not_mem.mpr fun a ha => by simpa using covered a ha
    exact List.Perm.refl []
  | cons b rest ih =>
    obtain ⟨fresh, hrest⟩ := List.nodup_cons.mp once
    have left : ∀ a ∈ items.filter (fun a => !decide (label a = b)), label a ∈ rest := by
      intro a ha
      obtain ⟨hmem, hne⟩ := List.mem_filter.mp ha
      exact (List.mem_cons.mp (covered a hmem)).resolve_left (by simpa using hne)
    have others := ih hrest left
    have same : ∀ c ∈ rest, ((items.filter fun a => !decide (label a = b)).filter
        fun a => label a = c) = items.filter fun a => label a = c := by
      intro c hc
      have apart : c ≠ b := fun h => fresh (h ▸ hc)
      rw [List.filter_filter]
      refine List.filter_congr fun a _ => ?_
      by_cases h : label a = c <;> simp [h, apart]
    rw [List.flatMap_congr same] at others
    rw [List.flatMap_cons]
    exact (List.filter_append_perm _ _).symm.trans (others.append_left _)

/-- Records, and an accumulator for each measure. -/
structure Tally where
  records : List Record
  accumulators : List Accumulator

/-- What is read of a measure, record by record. -/
def Measure.readings (m : Measure) (records : List Record) : List (Option Float) :=
  records.map fun r => Record.reading? r m.field

namespace PivotLayout

/-- A tally and those of its parts. -/
structure RollsUp (p : PivotLayout) (whole : Tally) (parts : List Tally) : Prop where
  /-- Each record is in exactly one part. -/
  once : whole.records.Perm (parts.flatMap (·.records))
  /-- Accumulators have taken the records of their tally and no others. -/
  kept : ∀ tally ∈ whole :: parts, tally.accumulators = p.accumulators tally.records
  /-- So there is one for each measure, which holds what the readings of its tally come to. -/
  aggregated : ∀ tally ∈ whole :: parts,
    List.Forall₂ (fun m a => Accumulator.Aggregates a (m.readings tally.records))
      p.values tally.accumulators
  combined : ∀ (i : Nat) (a : Accumulator), whole.accumulators[i]? = some a →
    a.Combines (parts.filterMap fun part => part.accumulators[i]?)
  /-- The sum of the whole comes to what the sums of the parts come to. -/
  sums : ∀ (i : Nat) (m : Measure) (a : Accumulator), p.values[i]? = some m →
    whole.accumulators[i]? = some a → a.SumsTo (m.readings whole.records)
      (parts.map fun part => Accumulator.exactSum (m.readings part.records)).sum
  /-- Sums that were never rounded are exact, so they add up as well. -/
  exactSums : ∀ (i : Nat) (m : Measure) (a : Accumulator), p.values[i]? = some m →
    whole.accumulators[i]? = some a →
    (∀ tally ∈ whole :: parts, Accumulator.AddsExactly (m.readings tally.records)) →
      Binary64.value a.sum = ((parts.filterMap fun part => part.accumulators[i]?).map
        fun part => Binary64.value part.sum).sum

variable {p : PivotLayout}

theorem getElem?_accumulators (p : PivotLayout) (records : List Record) (i : Nat) :
    (p.accumulators records)[i]? = (p.values[i]?).map fun m => .ofReadings (m.readings records) :=
  List.getElem?_map

/-- The accumulators over records hold what their readings come to. -/
theorem aggregated_accumulators (p : PivotLayout) (records : List Record) :
    List.Forall₂ (fun m a => Accumulator.Aggregates a (m.readings records))
      p.values (p.accumulators records) := by
  rw [accumulators, List.forall₂_map_right_iff, List.forall₂_same]
  exact fun m _ => Accumulator.aggregates_ofReadings (m.readings records)

theorem readings_perm {records : List Record} {parts : List (List Record)}
    (once : records.Perm parts.flatten) (m : Measure) :
    (m.readings records).Perm (parts.map m.readings).flatten := by
  rw [show (parts.map m.readings).flatten = m.readings parts.flatten from List.map_flatten.symm]
  exact once.map _

theorem rollsUp_of_perm {whole : Tally} {parts : List Tally}
    (once : whole.records.Perm (parts.flatMap (·.records)))
    (kept : whole.accumulators = p.accumulators whole.records)
    (keptParts : ∀ part ∈ parts, part.accumulators = p.accumulators part.records) :
    p.RollsUp whole parts := by
  have parted (m : Measure) : (m.readings whole.records).Perm
      ((parts.map fun part => m.readings part.records)).flatten := by
    have := readings_perm (List.flatMap_def ▸ once) m
    rwa [List.map_map] at this
  have wholeAt {i : Nat} {m : Measure} (hm : p.values[i]? = some m) :
      whole.accumulators[i]? = some (.ofReadings (m.readings whole.records)) := by
    rw [kept, getElem?_accumulators, hm, Option.map_some]
  have partsAt {i : Nat} {m : Measure} (hm : p.values[i]? = some m) :
      (parts.filterMap fun part => part.accumulators[i]?)
        = (parts.map fun part => m.readings part.records).map .ofReadings := by
    rw [List.map_map, ← List.filterMap_eq_map]
    refine List.filterMap_congr fun part hpart => ?_
    rw [keptParts part hpart, getElem?_accumulators, hm]
    rfl
  have keptAll : ∀ tally ∈ whole :: parts, tally.accumulators = p.accumulators tally.records :=
    List.forall_mem_cons.mpr ⟨kept, keptParts⟩
  refine ⟨once, keptAll, fun tally htally => ?_, fun i a ha => ?_, fun i m a hm ha => ?_,
    fun i m a hm ha exact => ?_⟩
  · rw [keptAll tally htally]
    exact aggregated_accumulators p tally.records
  · rw [kept, getElem?_accumulators] at ha
    obtain ⟨m, hm, rfl⟩ := Option.map_eq_some_iff.mp ha
    rw [partsAt hm]
    exact Accumulator.combines_of_perm (parted m)
  · obtain rfl := Option.some.inj ((wholeAt hm).symm.trans ha)
    have added := Accumulator.exactSum_perm (parted m)
    rw [List.map_map] at added
    exact added ▸ (Accumulator.aggregates_ofReadings _).sum
  · obtain rfl := Option.some.inj ((wholeAt hm).symm.trans ha)
    obtain ⟨exactWhole, exactParts⟩ := List.forall_mem_cons.mp exact
    rw [partsAt hm, List.map_map]
    refine Accumulator.value_sum_perm (parted m) exactWhole ?_
    intro part hpart
    obtain ⟨tally, htally, rfl⟩ := List.mem_map.mp hpart
    exact exactParts tally htally

/-- The columns of cells over records. -/
def columnTallies (p : PivotLayout) (records : List Record) (cells : Cells) : List Tally :=
  cells.columns.map fun column => ⟨p.inColumn records column.1, column.2⟩

/-- Rows behind some keys. -/
def rowTallies (p : PivotLayout) (records : List Record) (keys : List String)
    (rows : Fields RowNode) : List Tally :=
  rows.map fun row => ⟨p.under records (keys ++ [row.1]), row.2.cells.totals⟩

/-- The cells that such rows have in a column. -/
def cellTallies (p : PivotLayout) (records : List Record) (keys : List String)
    (rows : Fields RowNode) (column : String) : List Tally :=
  rows.filterMap fun row => (Fields.get? row.2.cells.columns column).map fun kept =>
    ⟨p.inColumn (p.under records (keys ++ [row.1])) column, kept⟩

/-- The cells that some keys lead to, with the rows directly behind. -/
structure RollsUpAt (p : PivotLayout) (records : List Record) (keys : List String) (cells : Cells)
    (children : Fields RowNode) : Prop where
  columns : p.RollsUp ⟨p.under records keys, cells.totals⟩
    (p.columnTallies (p.under records keys) cells)
  /-- The last level has no rows behind it. -/
  leaf : p.rows.length ≤ keys.length → children = []
  rows : keys.length < p.rows.length → p.RollsUp ⟨p.under records keys, cells.totals⟩
    (p.rowTallies records keys children)
  cells : keys.length < p.rows.length → ∀ column,
    match Fields.get? cells.columns column with
    | some kept => p.RollsUp ⟨p.inColumn (p.under records keys) column, kept⟩
        (p.cellTallies records keys children column)
    | none => p.cellTallies records keys children column = []

theorem length_rowKeys (p : PivotLayout) (r : Record) : (p.rowKeys r).length = p.rows.length := by
  simp [rowKeys, rowPath]

theorem under_nil (p : PivotLayout) (records : List Record) : p.under records [] = records := by
  simp [under]

/-- The next key parts the records with some keys. -/
theorem under_concat (p : PivotLayout) (records : List Record) (keys : List String) (key : String) :
    p.under records (keys ++ [key])
      = (p.under records keys).filter fun r => (p.rowKeys r)[keys.length]? = some key := by
  rw [under, under, List.filter_filter]
  refine List.filter_congr fun r _ => ?_
  simp [concat_prefix_iff, Bool.and_comm]

end PivotLayout

namespace Cells

variable {p : PivotLayout} {records : List Record} {cells : Cells}

theorem Holds.kept_of_get? (h : Holds p records cells) {column : String} {kept : List Accumulator}
    (hget : Fields.get? cells.columns column = some kept) :
    kept = p.accumulators (p.inColumn records column) := by
  rw [h.column] at hget
  split at hget
  · cases hget
  · exact (Option.some.inj hget).symm

theorem Holds.get?_eq_none_iff (h : Holds p records cells) {column : String} :
    Fields.get? cells.columns column = none ↔ p.inColumn records column = [] := by
  rw [h.column]
  simp

/-- Each record falls into one column. -/
theorem Holds.rollsUp (h : Holds p records cells) :
    p.RollsUp ⟨records, cells.totals⟩ (p.columnTallies records cells) := by
  refine PivotLayout.rollsUp_of_perm ?_ h.totals fun tally htally => ?_
  · have labelled : ∀ r ∈ records, p.columnKey r ∈ Fields.names cells.columns :=
      fun r hr => h.mem_names_iff.mpr ⟨r, hr, rfl⟩
    have parted := perm_flatMap_filter h.ascending.nodup labelled
    rw [Fields.names, List.flatMap_map] at parted
    rw [PivotLayout.columnTallies, List.flatMap_map]
    exact parted
  · obtain ⟨⟨column, kept⟩, hmem, rfl⟩ := List.mem_map.mp htally
    exact h.kept_of_get? (Fields.get?_of_mem h.ascending.nodup hmem)

end Cells

namespace RowNode

variable {p : PivotLayout} {records : List Record} {rows : Fields RowNode} {keys : List String}

theorem behind_concat (keys : List String) (key : String) :
    ∀ rows : Fields RowNode,
      behind rows (keys ++ [key]) = children? (Fields.get? (behind rows keys) key) := by
  induction keys with
  | nil => exact fun _ => rfl
  | cons first rest ih => exact fun rows => ih _

theorem Holds.holds_of_mem (h : Holds p records rows) {entry : String × RowNode}
    (mem : entry ∈ behind rows keys) :
    Cells.Holds p (p.under records (keys ++ [entry.1])) entry.2.cells :=
  (h.row keys entry.1 entry.2 (Fields.get?_of_mem (h.ordered keys).nodup mem)).2

/-- Each record of a row that is no leaf falls into one of the rows behind. -/
theorem Holds.parted (h : Holds p records rows) (inner : keys.length < p.rows.length) :
    (p.under records keys).Perm
      ((behind rows keys).flatMap fun row => p.under records (keys ++ [row.1])) := by
  have once : ((Fields.names (behind rows keys)).map some).Nodup :=
    List.Nodup.map (fun _ _ => Option.some.inj) (h.ordered keys).nodup
  have labelled : ∀ r ∈ p.under records keys,
      (p.rowKeys r)[keys.length]? ∈ (Fields.names (behind rows keys)).map some := by
    intro r hr
    obtain ⟨hmem, onPath⟩ := List.mem_filter.mp hr
    have inside : keys.length < (p.rowKeys r).length := by rwa [p.length_rowKeys]
    have next := List.getElem?_eq_getElem inside
    have onward := concat_prefix_iff.mpr ⟨by simpa using onPath, next⟩
    rw [next]
    exact List.mem_map_of_mem
      (Fields.mem_names_iff_get?.mpr ((h.present keys _).mpr ⟨r, hmem, onward⟩))
  have parted := perm_flatMap_filter once labelled
  rw [Fields.names, List.map_map, List.flatMap_map] at parted
  simpa only [p.under_concat, Function.comp_apply] using parted

/-- And within a column. -/
theorem Holds.parted_inColumn (h : Holds p records rows) (inner : keys.length < p.rows.length)
    (column : String) :
    (p.inColumn (p.under records keys) column).Perm ((behind rows keys).flatMap fun row =>
      p.inColumn (p.under records (keys ++ [row.1])) column) := by
  have parted := (h.parted inner).filter fun r => p.columnKey r = column
  rwa [List.filter_flatMap] at parted

/-- Behind the last level there is nothing. -/
theorem Holds.behind_leaf (h : Holds p records rows) (leaf : p.rows.length ≤ keys.length) :
    behind rows keys = [] := by
  refine List.eq_nil_iff_forall_not_mem.mpr fun entry mem => ?_
  have there := Fields.get?_of_mem (h.ordered keys).nodup mem
  obtain ⟨r, _, onPath⟩ := (h.present keys entry.1).mp (by simp [there])
  have := onPath.length_le
  rw [p.length_rowKeys, List.length_append, List.length_singleton] at this
  omega

/-- Rows behind others roll up to them, in total and in each column. -/
theorem Holds.rollsUpAt (h : Holds p records rows) {cells : Cells}
    (kept : Cells.Holds p (p.under records keys) cells) :
    p.RollsUpAt records keys cells (behind rows keys) where
  columns := kept.rollsUp
  leaf := h.behind_leaf
  rows := by
    intro inner
    refine PivotLayout.rollsUp_of_perm ?_ kept.totals fun tally htally => ?_
    · rw [PivotLayout.rowTallies, List.flatMap_map]
      exact h.parted inner
    · obtain ⟨entry, mem, rfl⟩ := List.mem_map.mp htally
      exact (h.holds_of_mem mem).totals
  cells := by
    intro inner column
    have parted := h.parted_inColumn inner column
    split
    · rename_i accumulators hget
      refine PivotLayout.rollsUp_of_perm ?_ (kept.kept_of_get? hget) fun tally htally => ?_
      · refine parted.trans (List.Perm.of_eq ?_)
        rw [PivotLayout.cellTallies, List.filterMap_eq_flatMap_toList, List.flatMap_assoc]
        refine List.flatMap_congr fun entry mem => ?_
        -- A row without the column has no record in it.
        cases hcell : Fields.get? entry.2.cells.columns column with
        | none => simp [(h.holds_of_mem mem).get?_eq_none_iff.mp hcell]
        | some cell => simp
      · obtain ⟨entry, mem, hentry⟩ := List.mem_filterMap.mp htally
        obtain ⟨cell, hcell, rfl⟩ := Option.map_eq_some_iff.mp hentry
        exact (h.holds_of_mem mem).kept_of_get? hcell
    · rename_i hnone
      rw [kept.get?_eq_none_iff.mp hnone] at parted
      refine List.filterMap_eq_nil_iff.mpr fun entry mem => ?_
      have nothing := List.flatMap_eq_nil_iff.mp parted.nil_eq.symm entry mem
      rw [(h.holds_of_mem mem).get?_eq_none_iff.mpr nothing, Option.map_none]

end RowNode

namespace PivotTable

theorem rows_of_start {p : PivotLayout} {t : PivotTable} (h : start p = .ok t) :
    0 < p.rows.length := by
  rw [start] at h
  split at h
  · cases h
  · rename_i nonempty
    exact List.length_pos_iff.mpr fun nothing => nonempty (by simp [nothing])

/-- In a table over any records, the grand totals and every row roll up from their columns, and from
the rows directly behind them, in total and cell by cell. -/
theorem totals_roll_up {p : PivotLayout} {empty : PivotTable} (started : start p = .ok empty)
    (records : List Record) :
    0 < p.rows.length ∧
    p.RollsUpAt records [] (records.foldl push empty).grand (records.foldl push empty).rows ∧
    ∀ keys key row,
      Fields.get? (RowNode.behind (records.foldl push empty).rows keys) key = some row →
        p.RollsUpAt records (keys ++ [key]) row.cells row.children := by
  have holds := Holds.of_start started records
  have grand : Cells.Holds p (p.under records []) (records.foldl push empty).grand := by
    rw [p.under_nil]
    exact holds.grand
  refine ⟨rows_of_start started, holds.rows.rollsUpAt grand, fun keys key row hrow => ?_⟩
  have children : RowNode.behind (records.foldl push empty).rows (keys ++ [key])
      = row.children := by
    rw [RowNode.behind_concat, hrow]
    rfl
  rw [← children]
  exact holds.rows.rollsUpAt (holds.rows.row keys key row hrow).2

/-- The north has the two deals and the amount of four of its cities, which have one and three. -/
theorem totals_roll_up_soldDeals :
    ∃ empty north amounts, start Deals.cities = .ok empty ∧
      Fields.get? (RowNode.behind (Deals.soldDeals.foldl push empty).rows []) "N" = some north ∧
      Deals.cities.RollsUpAt Deals.soldDeals ["N"] north.cells north.children ∧
      (north.children.map fun city => (city.1, city.2.cells.totals.head?.map fun a =>
        (a.records, Binary64.value a.sum))) = [("a", some (1, 1)), ("c", some (1, 3))] ∧
      north.cells.totals[0]? = some amounts ∧ amounts.records = 2 ∧ amounts.numeric = 2 ∧
      Binary64.value amounts.sum = 4 := by
  have started : start Deals.cities = .ok _ := rfl
  have there : Fields.get? (RowNode.behind (Deals.soldDeals.foldl push
      ⟨Deals.cities, [], Cells.empty 2, [], 0⟩).rows []) "N" = some _ := rfl
  have rolled := (totals_roll_up started Deals.soldDeals).2.2 [] "N" _ there
  have cities := rolled.rows (by decide)
  -- Counts and amounts come from those of the cities, of which no sum was rounded.
  have combined := cities.combined 0 _ rfl
  have exact := cities.exactSums 0 _ _ rfl rfl (by decide +kernel)
  refine ⟨_, _, _, started, there, rolled, by decide +kernel, rfl, ?_, ?_, ?_⟩
  · exact combined.records.trans (by decide +kernel)
  · exact combined.numeric.trans (by decide +kernel)
  · exact exact.trans (by decide +kernel)

end PivotTable

end RecordQuery
