import Mathlib.Data.List.Nodup
import RecordQuery.Proofs.Aggregation.Reading
import RecordQuery.Proofs.Pivot.Table

/-!
# Measures of one field

Every measure is aggregated, but results are told by field, and a field has one place. Of several
measures of one field the last one is told, wherever results stand: so none is lost only if all of
them aggregate alike.
-/

namespace RecordQuery

theorem Record.exists_reading (path : String) (n : Number) :
    ∃ r : Record, Record.reading? r path = some n.toFloat := by
  obtain ⟨r, hr⟩ := Record.exists_reach path (.num n)
  refine ⟨r, ?_⟩
  rw [Record.reading?, Record.pick?, hr]
  rfl

namespace Aggregator

theorem mem_all (a : Aggregator) : a ∈ all := by
  cases a <;> decide

/-- The readings one and four come to something else under each aggregator. -/
theorem result_injective {a b : Aggregator} {one four : Float} (hone : one = (Number.int 1).toFloat)
    (hfour : four = (Number.int 4).toFloat)
    (same : Value.ofFloat ((Accumulator.ofReadings [some one, some four]).result a)
      = Value.ofFloat ((Accumulator.ofReadings [some one, some four]).result b)) : a = b := by
  subst hone hfour
  have different : (all.map fun a => Value.ofFloat ((Accumulator.ofReadings
      [some (Number.int 1).toFloat, some (Number.int 4).toFloat]).result a)).Nodup := by
    decide +kernel
  exact List.inj_on_of_nodup_map different a.mem_all b.mem_all same

end Aggregator

/-- The result of a measure over records. -/
def Measure.over (m : Measure) (records : List Record) : Value :=
  .ofFloat ((Accumulator.ofReadings (records.map fun r => Record.reading? r m.field)).result
    m.aggregator)

namespace PivotLayout

/-- Something that holds of results and the records they are over, in the totals and in each cell
of a summary. -/
structure TellsInSummary (p : PivotLayout) (holds : List Record → Value → Prop)
    (records : List Record) (v : Value) : Prop where
  totals : ∃ results, v.get? "totals" = some results ∧ holds records results
  cells : ∃ cells, v.get? "cells" = some (.obj cells) ∧
    (∀ column, column ∈ Fields.names cells ↔ ∃ r ∈ records, p.columnKey r = column) ∧
    ∀ column results, Fields.get? cells column = some results →
      holds (p.inColumn records column) results

/-- Something that holds of all results of a finished table: in the grand totals and in each row. -/
structure Tells (p : PivotLayout) (holds : List Record → Value → Prop) (records : List Record)
    (table : Value) : Prop where
  grand : ∃ grand, table.get? "grandTotals" = some grand ∧ p.TellsInSummary holds records grand
  rows : ∃ rows, table.get? "data" = some (.arr rows) ∧
    (∀ keys, keys ≠ [] →
      ((RowValue.at? rows keys).isSome ↔ ∃ r ∈ records, keys <+: p.rowKeys r)) ∧
    ∀ keys row, RowValue.at? rows keys = some row →
      p.TellsInSummary holds (p.under records keys) row

/-- Every measure finds its own result under its field. -/
def EachOwn (p : PivotLayout) (records : List Record) (results : Value) : Prop :=
  ∀ m ∈ p.values, results.get? m.field = some (m.over records)

/-- The last measure of a field. -/
def lastMeasure? (p : PivotLayout) (field : String) : Option Measure :=
  p.values.reverse.find? fun m => m.field = field

/-- Under its field, every measure finds the result of the last measure of this field. -/
def EachLast (p : PivotLayout) (records : List Record) (results : Value) : Prop :=
  ∀ m ∈ p.values, ∃ last, p.lastMeasure? m.field = some last ∧
    results.get? m.field = some (last.over records)

variable {p : PivotLayout}

theorem exists_lastMeasure {m : Measure} (mem : m ∈ p.values) :
    ∃ last ∈ p.values, p.lastMeasure? m.field = some last ∧ last.field = m.field := by
  have found : (p.values.reverse.find? fun n => n.field = m.field).isSome := by
    rw [List.find?_isSome]
    exact ⟨m, List.mem_reverse.mpr mem, decide_eq_true rfl⟩
  obtain ⟨last, hlast⟩ := Option.isSome_iff_exists.mp found
  exact ⟨last, List.mem_reverse.mp (List.mem_of_find?_eq_some hlast), hlast,
    by simpa using List.find?_some hlast⟩

theorem get?_resultsValue (p : PivotLayout) (records : List Record) (field : String) :
    (Cells.resultsValue p.values (p.accumulators records)).get? field
      = (p.lastMeasure? field).map (·.over records) := by
  rw [Cells.resultsValue, accumulators, List.zipWith_map_right, List.zipWith_self, Value.get?,
    Fields.get?_collapse, ← List.map_reverse, Fields.get?, List.find?_map, Option.map_map]
  rfl

theorem eachLast_resultsValue (p : PivotLayout) (records : List Record) :
    p.EachLast records (Cells.resultsValue p.values (p.accumulators records)) := by
  intro m hm
  obtain ⟨last, _, hlast, _⟩ := exists_lastMeasure hm
  exact ⟨last, hlast, by rw [p.get?_resultsValue, hlast, Option.map_some]⟩

/-- Measures of one field that aggregate alike have one result. -/
theorem EachLast.eachOwn {records : List Record} {results : Value}
    (h : p.EachLast records results)
    (alike : ∀ m ∈ p.values, ∀ n ∈ p.values, m.field = n.field → m.aggregator = n.aggregator) :
    p.EachOwn records results := by
  intro m hm
  obtain ⟨last, hmem, hlast, field⟩ := exists_lastMeasure hm
  obtain ⟨_, hsame, told⟩ := h m hm
  obtain rfl := Option.some.inj (hlast.symm.trans hsame)
  rw [told, Measure.over, Measure.over, field, alike last hmem m hm field]

/-- Where all measures are told, no two of one field aggregate differently. -/
theorem aggregator_eq_of_eachOwn {m n : Measure} (hm : m ∈ p.values) (hn : n ∈ p.values)
    (field : m.field = n.field)
    (told : ∀ records, ∃ results, p.EachOwn records results) : m.aggregator = n.aggregator := by
  obtain ⟨r, hr⟩ := Record.exists_reading m.field (.int 1)
  obtain ⟨s, hs⟩ := Record.exists_reading m.field (.int 4)
  obtain ⟨results, own⟩ := told [r, s]
  have same : m.over [r, s] = n.over [r, s] := by
    have := own n hn
    rw [← field, own m hm] at this
    exact Option.some.inj this
  rw [Measure.over, Measure.over, ← field] at same
  simp only [List.map_cons, List.map_nil, hr, hs] at same
  exact Aggregator.result_injective rfl rfl same

end PivotLayout

/-- What cells show, in total and in each column. -/
theorem Cells.Holds.tells {p : PivotLayout} {holds : List Record → Value → Prop}
    (each : ∀ part, holds part (resultsValue p.values (p.accumulators part)))
    {records : List Record} {cells : Cells} (h : Holds p records cells) {v : Value}
    (totals : v.get? "totals" = some (cells.totalsValue p.values))
    (shown : v.get? "cells" = some (cells.columnsValue p.values)) :
    p.TellsInSummary holds records v where
  totals := ⟨_, totals, by rw [Cells.totalsValue, h.totals]; exact each records⟩
  cells := by
    refine ⟨_, shown, fun column => ?_, fun column results hresults => ?_⟩
    · rw [← h.mem_names_iff, Fields.names, List.map_map]
      rfl
    · have entry := Fields.mem_of_get? hresults
      obtain ⟨⟨other, accumulators⟩, hmem, hentry⟩ := List.mem_map.mp entry
      obtain ⟨rfl, rfl⟩ := Prod.mk.inj hentry
      have hget := Fields.get?_of_mem h.ascending.nodup hmem
      rw [h.column] at hget
      split at hget
      · cases hget
      · obtain rfl := Option.some.inj hget
        exact each _

namespace PivotTable

/-- What holds of any results holds of all that a finished table shows. -/
theorem Holds.tells {p : PivotLayout} {holds : List Record → Value → Prop}
    (each : ∀ part, holds part (Cells.resultsValue p.values (p.accumulators part)))
    {records : List Record} {t : PivotTable} (h : Holds p records t) :
    p.Tells holds records t.toValue := by
  obtain ⟨rfl, rows, grand⟩ := h
  refine ⟨⟨t.grandValue, rfl, grand.tells each rfl rfl⟩,
    ⟨RowNode.listed t.layout.values t.rowOrders t.rows, rfl, fun _ => rows.isSome_at?_listed,
      fun keys v hv => ?_⟩⟩
  obtain ⟨row, orders, key, rfl, cells⟩ := rows.exists_of_at?_listed hv
  exact cells.tells each (RowNode.totals_toValue _ _ _ _) (RowNode.cells_toValue _ _ _ _)

/-- In all totals and cells, a field shows the result of its last measure. So every measure is told,
whatever the records, if and only if no field has measures that aggregate differently. -/
theorem toValue_tells_iff {p : PivotLayout} {empty : PivotTable} (started : start p = .ok empty) :
    (∀ records, p.Tells p.EachLast records (records.foldl push empty).toValue) ∧
    ((∀ records, p.Tells p.EachOwn records (records.foldl push empty).toValue) ↔
      ∀ m ∈ p.values, ∀ n ∈ p.values, m.field = n.field → m.aggregator = n.aggregator) := by
  have holds := Holds.of_start started
  refine ⟨fun records => (holds records).tells p.eachLast_resultsValue, fun told => ?_,
    fun alike records => (holds records).tells fun part =>
      (p.eachLast_resultsValue part).eachOwn alike⟩
  intro m hm n hn field
  refine PivotLayout.aggregator_eq_of_eachOwn hm hn field fun records => ?_
  obtain ⟨_, _, summary⟩ := (told records).grand
  obtain ⟨results, _, own⟩ := summary.totals
  exact ⟨results, own⟩

end PivotTable

namespace Deals

/-- Deals by region with some measures, in one column. -/
def measured (values : List Measure) : PivotLayout where
  rows := [⟨"region", "Region", "text", 0, none, none⟩]
  columns := []
  values
  options := none
  blank := none

def amountBy (aggregator : Aggregator) : Measure := ⟨"amount", aggregator, "Amount", "number", none⟩

def sumTwice : PivotLayout := measured [amountBy .sum, amountBy .sum]

def sumAndAverage : PivotLayout := measured [amountBy .sum, amountBy .average]

end Deals

namespace PivotTable

/-- A sum that is asked for twice is told. -/
theorem toValue_tells_iff_sumTwice :
    ∃ empty, start Deals.sumTwice = .ok empty ∧ ∀ records,
      Deals.sumTwice.Tells Deals.sumTwice.EachOwn records (records.foldl push empty).toValue := by
  have started : start Deals.sumTwice = .ok _ := rfl
  exact ⟨_, started, (toValue_tells_iff started).2.mpr (by decide)⟩

/-- Of a sum and an average the grand totals tell the average, and the sum is lost. -/
theorem toValue_loses_sum :
    ∃ empty, start Deals.sumAndAverage = .ok empty ∧
      ¬ Deals.sumAndAverage.Tells Deals.sumAndAverage.EachOwn Deals.soldDeals
        (Deals.soldDeals.foldl push empty).toValue := by
  refine ⟨_, rfl, fun told => ?_⟩
  obtain ⟨grand, hgrand, summary⟩ := told.grand
  obtain ⟨results, hresults, own⟩ := summary.totals
  have shown : results.get? "amount" = some (.num (.real 2)) := by
    obtain rfl := Option.some.inj hgrand
    obtain rfl := Option.some.inj hresults
    decide +kernel
  have sum := own (Deals.amountBy .sum) List.mem_cons_self
  exact absurd (shown.symm.trans sum) (by decide +kernel)

end PivotTable

end RecordQuery
