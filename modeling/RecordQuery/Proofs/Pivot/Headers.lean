import RecordQuery.Proofs.Pivot.HeaderTree

/-!
# Headers lead to the columns of the cells

The key of a header is built going down, the key of a column all at once. They are the same unless a
record has an empty segment in front of others: its cells then have a key that no header has.
-/

namespace RecordQuery

/-- What cells show has their columns as its names. -/
theorem Cells.columnsValue_eq (values : List Measure) (cells : Cells) :
    ∃ shown, cells.columnsValue values = .obj shown ∧
      Fields.names shown = Fields.names cells.columns :=
  ⟨_, rfl, by simp [Fields.names, Function.comp_def]⟩

namespace PivotLayout

/-- The key of the header at the end of a record's way. -/
def headerKey (p : PivotLayout) (r : Record) : String := ColumnKey.ofHeader (p.columnSegments r)

/-- The record has no empty segment in front of others. -/
def Headed (p : PivotLayout) (r : Record) : Prop :=
  p.columns.length = 1 ∨ (p.columnSegments r).head? ≠ some ""

variable {p : PivotLayout} {r : Record}

theorem length_columnSegments (p : PivotLayout) (r : Record) :
    (p.columnSegments r).length = p.columns.length :=
  List.length_map _

theorem columnSegments_ne_nil (columned : p.columns ≠ []) : p.columnSegments r ≠ [] := by
  simpa [columnSegments] using columned

/-- The header of such a record has the key of its column. -/
theorem Headed.headerKey_eq (h : p.Headed r) (columned : p.columns ≠ []) :
    p.headerKey r = p.columnKey r := by
  have depth := p.length_columnSegments r
  obtain ⟨first, rest, hsegments⟩ := List.exists_cons_of_ne_nil (columnSegments_ne_nil columned)
  rw [Headed, hsegments] at h
  rw [headerKey, columnKey, hsegments]
  apply ColumnKey.ofHeader_eq_ofSegments
  rcases h with single | nonempty
  · rw [hsegments, single] at depth
    exact .inl (List.eq_nil_of_length_eq_zero (Nat.succ.inj depth))
  · exact .inr fun empty => nonempty (congrArg some empty)

/-- The column of any other record has a key that no header has. -/
theorem headerKey_ne (h : ¬ p.Headed r) (columned : p.columns ≠ []) (other : Record) :
    p.headerKey other ≠ p.columnKey r := by
  have depth := p.length_columnSegments r
  obtain ⟨first, rest, hsegments⟩ := List.exists_cons_of_ne_nil (columnSegments_ne_nil columned)
  rw [Headed, hsegments, not_or, not_not] at h
  obtain ⟨several, empty⟩ := h
  obtain rfl : first = "" := Option.some.inj empty
  rw [headerKey, columnKey, hsegments]
  apply ColumnKey.ofHeader_ne_ofSegments
  rintro rfl
  rw [hsegments] at depth
  exact several depth.symm

end PivotLayout

/-- The keys are those of the headers that the records lead to. -/
def PivotLayout.HeaderKeys (p : PivotLayout) (records : List Record) (keys : List String) : Prop :=
  ∀ key, key ∈ keys ↔ ∃ r ∈ records, p.headerKey r = key

namespace PivotLayout.HeaderKeys

variable {p : PivotLayout} {records part : List Record} {keys : List String}

/-- A column is addressed exactly if its records have no empty segment in front. -/
theorem columnKey_mem_iff (h : p.HeaderKeys records keys) (columned : p.columns ≠ []) {r : Record}
    (hr : r ∈ records) : p.columnKey r ∈ keys ↔ p.Headed r := by
  rw [h]
  constructor
  · rintro ⟨other, _, same⟩
    by_contra unheaded
    exact headerKey_ne unheaded columned other same
  · intro headed
    exact ⟨r, hr, headed.headerKey_eq columned⟩

/-- All columns of a part of the records are addressed exactly if each record's is. -/
theorem columns_mem_iff (h : p.HeaderKeys records keys) (columned : p.columns ≠ [])
    (among : ∀ r ∈ part, r ∈ records) {cells : Cells} (held : Cells.Holds p part cells) :
    (∀ column ∈ Fields.names cells.columns, column ∈ keys) ↔ ∀ r ∈ part, p.Headed r := by
  simp only [held.mem_names_iff]
  constructor
  · intro within r hr
    exact (h.columnKey_mem_iff columned (among r hr)).mp (within _ ⟨r, hr, rfl⟩)
  · rintro all _ ⟨r, hr, rfl⟩
    exact (h.columnKey_mem_iff columned (among r hr)).mpr (all r hr)

/-- If they are, no header is without a column. -/
theorem columns_eq_iff (h : p.HeaderKeys records keys) (columned : p.columns ≠ []) {cells : Cells}
    (held : Cells.Holds p records cells) :
    (∀ key, key ∈ keys ↔ key ∈ Fields.names cells.columns) ↔ ∀ r ∈ records, p.Headed r := by
  have within := h.columns_mem_iff columned (fun _ hr => hr) held
  constructor
  · intro same
    exact within.mp fun column hcolumn => (same column).mpr hcolumn
  · intro all key
    refine ⟨fun hkey => ?_, within.mpr all key⟩
    obtain ⟨r, hr, rfl⟩ := (h key).mp hkey
    exact held.mem_names_iff.mpr ⟨r, hr, ((all r hr).headerKey_eq columned).symm⟩

end PivotLayout.HeaderKeys

namespace HeaderNode.Holds

variable {p : PivotLayout} {records : List Record} {headers : Fields HeaderNode}

/-- Ways of one depth have different keys. -/
theorem nodup_keys (h : Holds p records headers) (orders : List Direction) :
    ((ways p.columns.length orders headers).map ColumnKey.ofHeader).Nodup := by
  refine (h.even.nodup_ways orders).map_on fun a ha b hb same => ?_
  have deep : a.length = b.length := (length_of_mem_ways ha).trans (length_of_mem_ways hb).symm
  exact ColumnKey.ofHeader_inj deep same

theorem headerKeys (h : Holds p records headers) (orders : List Direction) :
    p.HeaderKeys records ((ways p.columns.length orders headers).map ColumnKey.ofHeader) := by
  intro key
  simp only [List.mem_map, h.present]
  constructor
  · rintro ⟨_, ⟨r, hr, rfl⟩, rfl⟩
    exact ⟨r, hr, rfl⟩
  · rintro ⟨r, hr, rfl⟩
    exact ⟨_, ⟨r, hr, rfl⟩, rfl⟩

/-- What a reader finds at the ends of the shown headers. -/
theorem map_key?_leaves (h : Holds p records headers) (columned : p.columns ≠ [])
    (orders : List Direction) :
    (HeaderValue.leavesAmong (listed orders 0 "" headers)).map RowValue.key?
      = ((ways p.columns.length orders headers).map ColumnKey.ofHeader).map some := by
  have several : p.columns.length ≠ 0 := fun none => columned (List.eq_nil_of_length_eq_zero none)
  obtain ⟨n, depth⟩ := Nat.exists_eq_succ_of_ne_zero several
  have even := h.even
  rw [depth] at even ⊢
  rw [HeaderNode.map_key?_leaves n _ _ _ even, List.map_map]
  rfl

end HeaderNode.Holds

namespace PivotTable

theorem holds_start_headers {p : PivotLayout} {t : PivotTable} (started : start p = .ok t)
    (columned : p.columns ≠ []) : HeaderNode.Holds p [] t.headers := by
  rw [start] at started
  split at started
  · cases started
  · split at started
    · cases started
    · obtain rfl := Except.ok.inj started
      exact .empty columned

/-- After a run there is a way down for each record that was pushed. -/
theorem headers_foldl {p : PivotLayout} {done : List Record} {t : PivotTable}
    (layout : t.layout = p) (h : HeaderNode.Holds p done t.headers) (records : List Record) :
    HeaderNode.Holds p (done ++ records) (records.foldl push t).headers := by
  induction records generalizing done t with
  | nil => simpa using h
  | cons r rest ih =>
    subst layout
    have pushed : HeaderNode.Holds t.layout (done ++ [r]) (t.push r).headers := h.push r
    have next := ih (rfl : (t.push r).layout = t.layout) pushed
    rwa [List.append_assoc] at next

/-- The headers that a reader meets at the ends have keys of their own, one for each list of segments
that occurs. They are the keys of the cells in the grand totals if and only if no record has an empty
segment in front of others, and a row has no cells beyond them if and only if no record below it
has. -/
theorem headers_address_iff {p : PivotLayout} {empty : PivotTable} (started : start p = .ok empty)
    (columned : p.columns ≠ []) (records : List Record) :
    ∃ rows grand headers cells, ∃ keys : List String,
      (records.foldl push empty).toValue.get? "data" = some (.arr rows) ∧
      (records.foldl push empty).toValue.get? "grandTotals" = some grand ∧
      (records.foldl push empty).toValue.get? "columnHeaders" = some (.arr headers) ∧
      grand.get? "cells" = some (.obj cells) ∧
      (HeaderValue.leavesAmong headers).map RowValue.key? = keys.map some ∧
      keys.Nodup ∧
      p.HeaderKeys records keys ∧
      ((∀ key, key ∈ keys ↔ key ∈ Fields.names cells) ↔ ∀ r ∈ records, p.Headed r) ∧
      ∀ path row, RowValue.at? rows path = some row →
        ∃ own, row.get? "cells" = some (.obj own) ∧
          ((∀ key ∈ Fields.names own, key ∈ keys) ↔ ∀ r ∈ p.under records path, p.Headed r) := by
  have holds := (Holds.start started).foldl records
  have ways := headers_foldl (Holds.start started).layout (holds_start_headers started columned)
    records
  rw [List.nil_append] at holds ways
  generalize records.foldl push empty = t at holds ways
  obtain ⟨rfl, rows, grand⟩ := holds
  have headed := ways.headerKeys t.columnOrders
  obtain ⟨cells, shown, names⟩ := t.grand.columnsValue_eq t.layout.values
  refine ⟨RowNode.listed t.layout.values t.rowOrders t.rows, t.grandValue,
    HeaderNode.listed t.columnOrders 0 "" t.headers, cells, _, rfl, rfl, rfl, congrArg some shown,
    ways.map_key?_leaves columned _, ways.nodup_keys _, headed, ?_, ?_⟩
  · rw [names]
    exact headed.columns_eq_iff columned grand
  · intro path v hv
    have nonempty : path ≠ [] := by
      rintro rfl
      cases hv
    obtain ⟨front, key, rfl⟩ : ∃ front key, path = front ++ [key] :=
      ⟨_, _, (List.dropLast_concat_getLast nonempty).symm⟩
    rw [RowNode.at?_listed _ _ rows.ordered] at hv
    obtain ⟨row, hrow, rfl⟩ := Option.map_eq_some_iff.mp hv
    obtain ⟨_, held⟩ := rows.row front key row hrow
    obtain ⟨own, shown, names⟩ := row.cells.columnsValue_eq t.layout.values
    refine ⟨own, by rw [RowNode.cells_toValue, shown], ?_⟩
    rw [names]
    exact headed.columns_mem_iff columned (fun _ hr => List.mem_of_mem_filter hr) held

end PivotTable

namespace Deals

/-- Deals by owner, in columns by their stage and status. One stage has an empty label. -/
def stages : PivotLayout where
  rows := [⟨"owner", "Owner", "text", 0, none, none⟩]
  columns := [⟨"stage", "Stage", "text", some [⟨"none", ""⟩], none, none, none⟩,
    ⟨"status", "Status", "text", none, none, none, none⟩]
  values := [⟨"amount", .sum, "Amount", "number", none⟩]
  options := none
  blank := none

def staged (stage : String) : Record :=
  [("owner", .str "ann"), ("stage", .str stage), ("status", .str "won"), ("amount", .int 1)]

end Deals

namespace PivotTable

/-- A stage that is its own label leads to its cells. -/
theorem headers_address_iff_labelled :
    ∃ empty grand headers cells, ∃ keys : List String, start Deals.stages = .ok empty ∧
      Deals.stages.columns ≠ [] ∧
      (([Deals.staged "new"].foldl push empty).toValue.get? "grandTotals" = some grand ∧
        ([Deals.staged "new"].foldl push empty).toValue.get? "columnHeaders" = some (.arr headers) ∧
        grand.get? "cells" = some (.obj cells)) ∧
      (HeaderValue.leavesAmong headers).map RowValue.key? = keys.map some ∧
      ∀ key, key ∈ keys ↔ key ∈ Fields.names cells := by
  have started : start Deals.stages = .ok _ := rfl
  have columned : Deals.stages.columns ≠ [] := by decide
  obtain ⟨rows, grand, headers, cells, keys, _, hgrand, hheaders, hcells, found, _, _, same, _⟩ :=
    headers_address_iff started columned [Deals.staged "new"]
  have headed : ∀ r ∈ [Deals.staged "new"], Deals.stages.Headed r := by
    intro r hr
    rw [List.mem_singleton.mp hr]
    exact .inr (by decide +kernel)
  exact ⟨_, grand, headers, cells, keys, started, columned, ⟨hgrand, hheaders, hcells⟩, found,
    same.mpr headed⟩

/-- A stage with an empty label does not: its only header has another key than its cells. -/
theorem headers_miss_unlabelled :
    ∃ empty grand headers cells, ∃ keys : List String, start Deals.stages = .ok empty ∧
      Deals.stages.columns ≠ [] ∧
      (([Deals.staged "none"].foldl push empty).toValue.get? "grandTotals" = some grand ∧
        ([Deals.staged "none"].foldl push empty).toValue.get? "columnHeaders" = some (.arr headers) ∧
        grand.get? "cells" = some (.obj cells)) ∧
      (HeaderValue.leavesAmong headers).map RowValue.key? = keys.map some ∧
      ¬ ∀ key, key ∈ keys ↔ key ∈ Fields.names cells := by
  refine ⟨_, _, _, _, ["won"], rfl, by decide, ⟨rfl, rfl, rfl⟩, by decide +kernel, fun same => ?_⟩
  have missed := (same "|won").mpr (by decide +kernel)
  exact absurd missed (by decide)

end PivotTable

end RecordQuery
