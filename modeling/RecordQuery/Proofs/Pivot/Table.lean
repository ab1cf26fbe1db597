import RecordQuery.Proofs.Pivot.Rows

/-!
# A finished pivot is a summary of its records

A reader finds a row of a finished table by following the keys from the top. The row is there
exactly if a record has this path, and it shows the results over all records whose path begins with
its keys, in total and in each of their columns.
-/

namespace RecordQuery

/-! Rows of a finished table, as a reader sees them. -/

namespace RowValue

def key? (row : Value) : Option String := (row.get? "key").bind Value.asStr?

def children (row : Value) : List Value := ((row.get? "children").bind Value.asList?).getD []

def named? (rows : List Value) (key : String) : Option Value :=
  rows.find? fun row => key? row = some key

/-- The rows that stand directly behind some keys. -/
def behind : List Value → List String → List Value
  | rows, [] => rows
  | rows, key :: rest => behind (((named? rows key).map children).getD []) rest

/-- The row that some keys lead to, one for each level. -/
def at? (rows : List Value) (keys : List String) : Option Value :=
  keys.getLast?.bind fun key => named? (behind rows keys.dropLast) key

theorem at?_concat (rows : List Value) (keys : List String) (key : String) :
    at? rows (keys ++ [key]) = named? (behind rows keys) key := by
  simp [at?]

end RowValue

namespace Direction

/-- Which of two keys comes first. -/
def Before : Direction → String → String → Prop
  | ascending, a, b => a < b
  | descending, a, b => b < a

theorem mem_arrange {α : Type} {d : Direction} {entries : List α} {entry : α} :
    entry ∈ d.arrange entries ↔ entry ∈ entries := by
  cases d <;> simp [arrange]

theorem map_arrange {α β : Type} (d : Direction) (f : α → β) (entries : List α) :
    (d.arrange entries).map f = d.arrange (entries.map f) := by
  cases d <;> simp [arrange]

@[simp]
theorem arrange_nil {α : Type} (d : Direction) : d.arrange ([] : List α) = [] := by
  cases d <;> rfl

theorem pairwise_arrange {keys : List String} (h : keys.Pairwise (· < ·)) (d : Direction) :
    (d.arrange keys).Pairwise d.Before := by
  cases d with
  | ascending => exact h
  | descending => exact List.pairwise_reverse.mpr h

end Direction

namespace RowNode

/-- Rows as they are shown, in the order of their level. -/
def listed (values : List Measure) (orders : List Direction) (rows : Fields RowNode) : List Value :=
  (orders.headD .ascending).arrange (toValues values orders.tail rows)

theorem toValues_eq_map (values : List Measure) (orders : List Direction) (rows : Fields RowNode) :
    toValues values orders rows = rows.map fun entry => entry.2.toValue values orders entry.1 := by
  induction rows with
  | nil => rfl
  | cons entry rest ih =>
    obtain ⟨key, row⟩ := entry
    rw [toValues, ih]
    rfl

theorem listed_nil (values : List Measure) (orders : List Direction) :
    listed values orders [] = [] := by
  simp [listed, toValues]

section
variable (values : List Measure) (orders : List Direction) (key : String) (row : RowNode)

theorem key?_toValue : RowValue.key? (row.toValue values orders key) = some key := by
  cases row
  rfl

theorem level_toValue : (row.toValue values orders key).get? "level" = some (.nat row.level) := by
  cases row
  rfl

theorem cells_toValue :
    (row.toValue values orders key).get? "cells" = some (row.cells.columnsValue values) := by
  cases row
  rfl

theorem totals_toValue :
    (row.toValue values orders key).get? "totals" = some (row.cells.totalsValue values) := by
  cases row
  rfl

theorem children_toValue :
    RowValue.children (row.toValue values orders key) = listed values orders row.children := by
  obtain ⟨label, level, cells, children⟩ := row
  cases children with
  | nil => exact (listed_nil values orders).symm
  | cons first rest => rfl

end

theorem map_key?_listed (values : List Measure) (orders : List Direction) (rows : Fields RowNode) :
    (listed values orders rows).map RowValue.key?
      = ((orders.headD .ascending).arrange (Fields.names rows)).map some := by
  rw [listed, Direction.map_arrange, Direction.map_arrange, toValues_eq_map, List.map_map,
    Fields.names, List.map_map]
  congr 1
  exact List.map_congr_left fun entry _ => key?_toValue values orders.tail entry.1 entry.2

/-- A key leads to the row kept under it, in whatever order the rows are shown. -/
theorem named?_listed (values : List Measure) (orders : List Direction) {rows : Fields RowNode}
    (h : rows.Ascending) (key : String) :
    RowValue.named? (listed values orders rows) key
      = (Fields.get? rows key).map fun row => row.toValue values orders.tail key := by
  have shown : ∀ v, v ∈ listed values orders rows ↔
      ∃ entry ∈ rows, entry.2.toValue values orders.tail entry.1 = v := by
    intro v
    rw [listed, Direction.mem_arrange, toValues_eq_map, List.mem_map]
  have found : ∀ v ∈ listed values orders rows, RowValue.key? v = some key →
      ∃ row, Fields.get? rows key = some row ∧ v = row.toValue values orders.tail key := by
    intro v hv hkey
    obtain ⟨⟨other, row⟩, hentry, rfl⟩ := (shown v).mp hv
    rw [key?_toValue] at hkey
    obtain rfl := Option.some.inj hkey
    exact ⟨row, Fields.get?_of_mem h.nodup hentry, rfl⟩
  cases hnamed : RowValue.named? (listed values orders rows) key with
  | some v =>
    have hmem := List.mem_of_find?_eq_some hnamed
    have hkey := List.find?_some hnamed
    obtain ⟨row, hrow, rfl⟩ := found v hmem (by simpa using hkey)
    rw [hrow]
    rfl
  | none =>
    cases hget : Fields.get? rows key with
    | none => rfl
    | some row =>
      have hmem := (shown _).mpr ⟨(key, row), Fields.mem_of_get? hget, rfl⟩
      have := List.find?_eq_none.mp hnamed _ hmem
      simp [key?_toValue] at this

/-- Following keys through the shown rows and through the table leads to the same place. -/
theorem behind_listed (values : List Measure) (keys : List String) :
    ∀ (orders : List Direction) {rows : Fields RowNode}, Ordered rows →
      RowValue.behind (listed values orders rows) keys
        = listed values (orders.drop keys.length) (behind rows keys) := by
  induction keys with
  | nil => intro orders rows _; rfl
  | cons key rest ih =>
    intro orders rows h
    have ascending : rows.Ascending := h []
    rw [RowValue.behind, named?_listed values orders ascending, behind]
    have below : (((Fields.get? rows key).map fun row => row.toValue values orders.tail key).map
        RowValue.children).getD []
        = listed values orders.tail (children? (Fields.get? rows key)) := by
      cases Fields.get? rows key with
      | none => exact (listed_nil values _).symm
      | some row => exact children_toValue values orders.tail key row
    rw [below, ih orders.tail (h.children key), List.length_cons, List.drop_tail]

/-- What a reader finds at some keys is the row that the table keeps there. -/
theorem at?_listed (values : List Measure) (orders : List Direction) {rows : Fields RowNode}
    (h : Ordered rows) (keys : List String) (key : String) :
    RowValue.at? (listed values orders rows) (keys ++ [key])
      = (Fields.get? (behind rows keys) key).map fun row =>
          row.toValue values (orders.drop keys.length).tail key := by
  rw [RowValue.at?_concat, behind_listed values keys orders h, named?_listed _ _ (h keys)]

section
variable {p : PivotLayout} {records : List Record} {rows : Fields RowNode} {values : List Measure}
  {orders : List Direction} {keys : List String}

/-- There are rows to read wherever records lead. -/
theorem Holds.isSome_at?_listed (h : Holds p records rows) (nonempty : keys ≠ []) :
    (RowValue.at? (listed values orders rows) keys).isSome ↔
      ∃ r ∈ records, keys <+: p.rowKeys r := by
  obtain ⟨front, key, rfl⟩ : ∃ front key, keys = front ++ [key] :=
    ⟨_, _, (List.dropLast_concat_getLast nonempty).symm⟩
  rw [at?_listed _ _ h.ordered, Option.isSome_map, ← h.present, Option.isSome_iff_ne_none]

/-- And each of them shows a row that holds the records below. -/
theorem Holds.exists_of_at?_listed (h : Holds p records rows) {v : Value}
    (hv : RowValue.at? (listed values orders rows) keys = some v) :
    ∃ row shown key, v = toValue values shown key row ∧
      Cells.Holds p (p.under records keys) row.cells := by
  have nonempty : keys ≠ [] := by
    rintro rfl
    cases hv
  obtain ⟨front, key, rfl⟩ : ∃ front key, keys = front ++ [key] :=
    ⟨_, _, (List.dropLast_concat_getLast nonempty).symm⟩
  rw [at?_listed _ _ h.ordered] at hv
  obtain ⟨row, hrow, rfl⟩ := Option.map_eq_some_iff.mp hv
  exact ⟨row, _, key, rfl, (h.row front key row hrow).2⟩

end

end RowNode

namespace PivotLayout

/-- Totals and cells that tell what the records come to. -/
structure Summarizes (p : PivotLayout) (records : List Record) (v : Value) : Prop where
  totals : v.get? "totals" = some (p.results records)
  cells : ∃ cells, v.get? "cells" = some cells ∧ p.Tabulates records cells

end PivotLayout

namespace PivotTable

/-- A pivot of any records shows, at each path of row keys that occurs and nowhere else, what the
records with this path come to, and in its grand totals what all of them come to. Rows beside each
other are in the order of their dimension. -/
theorem toValue_summarizes {p : PivotLayout} {empty : PivotTable} (started : start p = .ok empty)
    (distinct : (p.values.map (·.field)).Nodup) (records : List Record) :
    ∃ rows grand,
      (records.foldl push empty).toValue.get? "data" = some (.arr rows) ∧
      (records.foldl push empty).toValue.get? "grandTotals" = some grand ∧
      p.Summarizes records grand ∧
      (∀ keys, keys ≠ [] →
        ((RowValue.at? rows keys).isSome ↔ ∃ r ∈ records, keys <+: p.rowKeys r)) ∧
      (∀ keys row, RowValue.at? rows keys = some row →
        row.get? "level" = some (.nat (keys.length - 1)) ∧
          p.Summarizes (p.under records keys) row) ∧
      ∀ keys d, p.rows[keys.length]? = some d →
        ∃ siblings : List String,
          (RowValue.behind rows keys).map RowValue.key? = siblings.map some ∧
            siblings.Pairwise (d.order.getD .ascending).Before := by
  have holds := (Holds.start started).foldl records
  rw [List.nil_append] at holds
  generalize records.foldl push empty = t at holds
  obtain ⟨rfl, rows, grand⟩ := holds
  refine ⟨RowNode.listed t.layout.values t.rowOrders t.rows, t.grandValue, rfl, rfl, ?_, ?_, ?_, ?_⟩
  · exact ⟨congrArg some (grand.totalsValue distinct), _, rfl, grand.tabulates distinct⟩
  · intro keys nonempty
    obtain ⟨front, key, rfl⟩ : ∃ front key, keys = front ++ [key] :=
      ⟨_, _, (List.dropLast_concat_getLast nonempty).symm⟩
    rw [RowNode.at?_listed _ _ rows.ordered, Option.isSome_map, ← rows.present,
      Option.isSome_iff_ne_none]
  · intro keys v hv
    have nonempty : keys ≠ [] := by
      rintro rfl
      cases hv
    obtain ⟨front, key, rfl⟩ : ∃ front key, keys = front ++ [key] :=
      ⟨_, _, (List.dropLast_concat_getLast nonempty).symm⟩
    rw [RowNode.at?_listed _ _ rows.ordered] at hv
    obtain ⟨row, hrow, rfl⟩ := Option.map_eq_some_iff.mp hv
    obtain ⟨level, cells⟩ := rows.row front key row hrow
    refine ⟨?_, ?_, _, RowNode.cells_toValue _ _ _ _, cells.tabulates distinct⟩
    · rw [RowNode.level_toValue, level]
      simp
    · rw [RowNode.totals_toValue, cells.totalsValue distinct]
  · intro keys d hd
    refine ⟨_, ?_, Direction.pairwise_arrange (rows.ordered keys) _⟩
    rw [RowNode.behind_listed _ _ _ rows.ordered, RowNode.map_key?_listed]
    have order : (t.rowOrders.drop keys.length).headD .ascending = d.order.getD .ascending := by
      simp [PivotTable.rowOrders, List.headD_eq_head?_getD, List.head?_drop, hd]
    rw [order]

end PivotTable

namespace Deals

/-- Deals by region and city, in columns by their status. -/
def cities : PivotLayout where
  rows := [⟨"region", "Region", "text", 0, none, none⟩,
    ⟨"city", "City", "text", 1, none, some .descending⟩]
  columns := [⟨"status", "Status", "text", none, none, none, none⟩]
  values := [⟨"amount", .sum, "Amount", "number", none⟩,
    ⟨"price", .average, "Price", "number", none⟩]
  options := none
  blank := none

def sold (region city status : String) (amount : Int) : Record :=
  [("region", .str region), ("city", .str city), ("status", .str status), ("amount", .int amount)]

def soldDeals : List Record := [sold "N" "a" "won" 1, sold "S" "b" "lost" 2, sold "N" "c" "won" 3]

end Deals

theorem PivotTable.toValue_summarizes_soldDeals :
    ∃ empty rows row, start Deals.cities = .ok empty ∧
      (Deals.cities.values.map (·.field)).Nodup ∧
      (Deals.soldDeals.foldl push empty).toValue.get? "data" = some (.arr rows) ∧
      RowValue.at? rows ["N", "b"] = none ∧ RowValue.at? rows ["N"] = some row ∧
      row.get? "totals" = some (.obj [("amount", .num (.real 4)), ("price", .num (.real 0))]) := by
  have started : start Deals.cities = .ok _ := rfl
  have distinct : (Deals.cities.values.map (·.field)).Nodup := by decide
  obtain ⟨rows, grand, hrows, _, _, present, shown, _⟩ :=
    toValue_summarizes started distinct Deals.soldDeals
  have north : (RowValue.at? rows ["N"]).isSome := (present ["N"] (by simp)).mpr (by decide +kernel)
  have nowhere : ¬ (RowValue.at? rows ["N", "b"]).isSome := fun h =>
    absurd ((present ["N", "b"] (by simp)).mp h) (by decide +kernel)
  obtain ⟨row, hrow⟩ := Option.isSome_iff_exists.mp north
  have amounts : Deals.cities.results (Deals.cities.under Deals.soldDeals ["N"])
      = .obj [("amount", .num (.real 4)), ("price", .num (.real 0))] := by decide +kernel
  exact ⟨_, rows, row, started, distinct, hrows, by simpa using nowhere, hrow,
    amounts ▸ (shown ["N"] row hrow).2.totals⟩

end RecordQuery
