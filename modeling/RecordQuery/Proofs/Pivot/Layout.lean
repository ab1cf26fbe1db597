import RecordQuery.Pivot.Layout
import RecordQuery.Proofs.Value.Legible

/-!
# Layouts are read back

A layout that is handed over as a value is read as the very layout it was. So a table is computed
for the dimensions and measures that were asked for.
-/

namespace RecordQuery

theorem Direction.ofValue?_toValue (d : Direction) : ofValue? d.toValue = some d := by
  cases d <;> decide

theorem Bucket.ofValue?_toValue (b : Bucket) : ofValue? b.toValue = some b := by
  cases b <;> decide

theorem Aggregator.ofValue?_toValue (a : Aggregator) : ofValue? a.toValue = some a := by
  cases a <;> decide

namespace Shape

@[simp]
theorem text_write (s : String) : text (some (.str s)) = some s := rfl

@[simp]
theorem typeName_write (s : String) : typeName (some (.str s)) = some s := rfl

@[simp]
theorem optionalText_write (o : Option String) : optionalText (o.map .str) = some o := by
  have back : ∀ s, Value.asStr? (.str s) = some s := fun _ => rfl
  exact fill_optional back (fun s => by simp) o

@[simp]
theorem optionalFlag_write (o : Option Bool) : optionalFlag (o.map .bool) = some o := by
  have back : ∀ b, Value.asBool? (.bool b) = some b := fun _ => rfl
  exact fill_optional back (fun b => by simp) o

@[simp]
theorem optionalOrder_write (o : Option Direction) :
    optionalOrder (o.map (·.toValue)) = some o :=
  fill_optional Direction.ofValue?_toValue (fun _ => by simp [Direction.toValue]) o

@[simp]
theorem optionalBucket_write (o : Option Bucket) : optionalBucket (o.map (·.toValue)) = some o :=
  fill_optional Bucket.ofValue?_toValue (fun _ => by simp [Bucket.toValue]) o

@[simp]
theorem texts?_write (items : List String) : texts? (.arr (items.map .str)) = some items := by
  have back : ∀ s, Value.asStr? (.str s) = some s := fun _ => rfl
  exact list?_map back items

end Shape

theorem PivotOptions.ofValue?_toValue (o : PivotOptions) : ofValue? o.toValue = some o := by
  have slots : Shape.slots? [["showRowGrandTotals"], ["showColGrandTotals"], ["showSubtotals"]]
      o.toValue = some [o.showRowGrandTotals.map .bool, o.showColGrandTotals.map .bool,
        o.showSubtotals.map .bool] :=
    Shape.slots?_present [("showRowGrandTotals", _), ("showColGrandTotals", _),
      ("showSubtotals", _)] (by simp)
  simp [ofValue?, slots]

theorem LookupDisplay.ofValue?_toValue (d : LookupDisplay) : ofValue? d.toValue = some d := by
  have slots : Shape.slots? [["document"], ["displayField"], ["formatPattern"], ["simpleFields"],
      ["nestedFields"]] d.toValue = some [some (.str d.document), some (.str d.displayField),
        some (.str d.pattern), some (.arr (d.simpleFields.map .str)),
        some (.arr (d.nestedFields.map .str))] :=
    Shape.slots?_present [("document", some _), ("displayField", some _),
      ("formatPattern", some _), ("simpleFields", some _), ("nestedFields", some _)] (by simp)
  simp [ofValue?, slots, Value.asStr?]

theorem PicklistOption.ofValue?_toValue (o : PicklistOption) : ofValue? o.toValue = some o := by
  have slots : Shape.slots? [["key"], ["label"]] o.toValue
      = some [some (.str o.key), some (.str o.label)] :=
    Shape.slots?_present [("key", some _), ("label", some _)] (by simp)
  simp [ofValue?, slots, Value.asStr?]

@[simp]
theorem Shape.lookup_write (o : Option LookupDisplay) :
    fill none (optional LookupDisplay.ofValue?) (o.map (·.toValue)) = some o :=
  fill_optional LookupDisplay.ofValue?_toValue (fun _ => by simp [LookupDisplay.toValue]) o

@[simp]
theorem Shape.choices_write (o : Option (List PicklistOption)) :
    fill none (optional (list? PicklistOption.ofValue?))
      (o.map fun choices => .arr (choices.map (·.toValue))) = some o :=
  fill_optional (list?_map PicklistOption.ofValue?_toValue) (fun _ => by simp) o

theorem RowDimension.ofValue?_toValue (d : RowDimension) : ofValue? d.toValue = some d := by
  have slots : Shape.slots? [["field"], ["label"], ["type"], ["level"], ["lookup"], ["order"]]
      d.toValue = some [some (.str d.field), some (.str d.label), some (.str d.type),
        some (.nat d.level), d.lookup.map (·.toValue), d.order.map (·.toValue)] :=
    Shape.slots?_present [("field", some _), ("label", some _), ("type", some _),
      ("level", some _), ("lookup", _), ("order", _)] (by simp)
  have level : Shape.fill 0 Value.asNat? (some (.nat d.level)) = some d.level := rfl
  simp [ofValue?, slots, Value.asStr?, level]

theorem ColumnDimension.ofValue?_toValue (d : ColumnDimension) : ofValue? d.toValue = some d := by
  have slots : Shape.slots? [["field"], ["label"], ["type"], ["values"], ["lookup"], ["bucket"],
      ["order"]] d.toValue = some [some (.str d.field), some (.str d.label), some (.str d.type),
        d.options.map fun choices => .arr (choices.map (·.toValue)), d.lookup.map (·.toValue),
        d.bucket.map (·.toValue), d.order.map (·.toValue)] :=
    Shape.slots?_present [("field", some _), ("label", some _), ("type", some _), ("values", _),
      ("lookup", _), ("bucket", _), ("order", _)] (by simp)
  simp [ofValue?, slots, Value.asStr?]

theorem Measure.ofValue?_toValue (m : Measure) : ofValue? m.toValue = some m := by
  have slots : Shape.slots? [["field"], ["aggregator"], ["label"], ["type"], ["format"]] m.toValue
      = some [some (.str m.field), some m.aggregator.toValue, some (.str m.label),
        some (.str m.type), m.format.map .str] :=
    Shape.slots?_present [("field", some _), ("aggregator", some _), ("label", some _),
      ("type", some _), ("format", _)] (by simp)
  have aggregator : Shape.fill .sum Aggregator.ofValue? (some m.aggregator.toValue)
      = some m.aggregator := Aggregator.ofValue?_toValue m.aggregator
  simp [ofValue?, slots, Value.asStr?, aggregator]

/-- A layout is read back as it was written. -/
theorem PivotLayout.ofValue?_toValue (p : PivotLayout) : ofValue? p.toValue = some p := by
  have slots : Shape.slots? [["rows"], ["columns"], ["values"], ["options"], ["blankText"]]
      p.toValue = some [some (.arr (p.rows.map (·.toValue))),
        if p.columns.isEmpty then none else some (.arr (p.columns.map (·.toValue))),
        some (.arr (p.values.map (·.toValue))), p.options.map (·.toValue), p.blank.map .str] :=
    Shape.slots?_present [("rows", some _), ("columns", _), ("values", some _), ("options", _),
      ("blankText", _)] (by simp)
  have rows : Shape.fill [] (Shape.list? RowDimension.ofValue?)
      (some (.arr (p.rows.map (·.toValue)))) = some p.rows :=
    Shape.list?_map RowDimension.ofValue?_toValue p.rows
  -- No columns are not written at all, and read as none.
  have columns : Shape.fill [] (Shape.list? ColumnDimension.ofValue?)
      (if p.columns.isEmpty then none else some (.arr (p.columns.map (·.toValue))))
        = some p.columns := by
    cases hcolumns : p.columns with
    | nil => rfl
    | cons first rest =>
      exact Shape.list?_map ColumnDimension.ofValue?_toValue (first :: rest)
  have values : Shape.fill [] (Shape.list? Measure.ofValue?)
      (some (.arr (p.values.map (·.toValue)))) = some p.values :=
    Shape.list?_map Measure.ofValue?_toValue p.values
  have options : Shape.fill none (Shape.optional PivotOptions.ofValue?)
      (p.options.map (·.toValue)) = some p.options :=
    Shape.fill_optional PivotOptions.ofValue?_toValue
      (fun _ => by simp [PivotOptions.toValue]) p.options
  rw [ofValue?, slots]
  simp only [Option.bind_eq_bind, Option.bind_some, rows, columns, values, options,
    Shape.optionalText_write]
  rfl

/-! Nor does a layout hold anything that its text loses. -/

section
open Value

variable {deepest : Nat}

theorem LookupDisplay.legible_toValue (d : LookupDisplay) : d.toValue.Legible (deepest + 2) :=
  legible_obj (by simp [Fields.names]) (by simp [legible_list])

theorem PicklistOption.legible_toValue (o : PicklistOption) : o.toValue.Legible (deepest + 1) :=
  legible_obj (by simp [Fields.names]) (by simp)

theorem PivotOptions.legible_toValue (o : PivotOptions) : o.toValue.Legible (deepest + 1) := by
  have flag (o : Option Bool) : ∀ v ∈ o.map bool, v.Legible deepest :=
    legible_optional fun b _ => legible_bool b
  refine legible_present (by simp) ?_
  simp only [List.forall_mem_cons]
  exact ⟨flag _, flag _, flag _, by simp⟩

theorem RowDimension.legible_toValue {d : RowDimension} (fits : d.level < Word.bound64) :
    d.toValue.Legible (deepest + 3) := by
  refine legible_present (by simp) ?_
  simp [legible_nat fits, LookupDisplay.legible_toValue, Direction.toValue]

theorem ColumnDimension.legible_toValue (d : ColumnDimension) :
    d.toValue.Legible (deepest + 3) := by
  refine legible_present (by simp) ?_
  simp [LookupDisplay.legible_toValue, legible_list, PicklistOption.legible_toValue,
    Bucket.toValue, Direction.toValue]

theorem Measure.legible_toValue (m : Measure) : m.toValue.Legible (deepest + 1) :=
  legible_present (by simp) (by simp [Aggregator.toValue])

theorem PivotLayout.legible_toValue {p : PivotLayout}
    (fits : ∀ row ∈ p.rows, row.level < Word.bound64) : p.toValue.Legible (deepest + 5) := by
  have rows : (arr (p.rows.map (·.toValue))).Legible (deepest + 4) :=
    legible_list fun row hrow => RowDimension.legible_toValue (fits row hrow)
  have columns : (arr (p.columns.map (·.toValue))).Legible (deepest + 4) :=
    legible_list fun column _ => column.legible_toValue
  have values : (arr (p.values.map (·.toValue))).Legible (deepest + 4) :=
    legible_list fun measure _ => measure.legible_toValue
  refine legible_present (by simp) ?_
  simp [rows, columns, values, PivotOptions.legible_toValue]

/-- The rows of a layout are numbered from zero on. -/
theorem PivotConfig.legible_layout {config : PivotConfig}
    (few : config.rows.length ≤ Word.bound64) (registry : Registry) (document : DocumentType)
    (language : String) :
    (config.layout registry document language).toValue.Legible (deepest + 5) := by
  refine PivotLayout.legible_toValue fun row hrow => ?_
  obtain ⟨⟨requested, level⟩, hlevel, rfl⟩ := List.mem_map.mp hrow
  obtain ⟨_, below, _⟩ := List.mem_zipIdx hlevel
  exact Nat.lt_of_lt_of_le (by simpa using below) few

end

end RecordQuery
