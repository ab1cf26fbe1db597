import RecordQuery.Chart.Fields
import RecordQuery.Proofs.Pivot.Layout

/-!
# Charts are read back

A chart that is handed over as a value is read as the very chart it was, if its sizes are kept in 32
bits. Labels and a title are filled in without a change to what the chart reads.
-/

namespace RecordQuery

theorem ChartKind.ofValue?_name (k : ChartKind) : ofValue? (.str k.name) = some k := by
  cases k <;> decide

namespace Axis

theorem ofValue?_toValue (a : Axis) : ofValue? a.toValue = some a := by
  have slots : Shape.slots? [["field"], ["label"], ["format"]] a.toValue
      = some [some (.str a.field), a.label.map .str, a.format.map .str] :=
    Shape.slots?_present [("field", some _), ("label", _), ("format", _)] (by simp)
  have text (o : Option String) :
      Shape.fill none (Shape.optional Value.asStr?) (o.map .str) = some o :=
    Shape.optionalText_write o
  simp [ofValue?, slots, text]

theorem legible_toValue (a : Axis) {deepest : Nat} : a.toValue.Legible (deepest + 1) :=
  Value.legible_present (by simp) (by simp)

end Axis

namespace ChartConfig

/-- Width and height are kept in 32 bits. -/
structure Sized (c : ChartConfig) : Prop where
  width : ∀ n ∈ c.width, n < Word.bound32
  height : ∀ n ∈ c.height, n < Word.bound32

theorem size_of_fill {slot : Option Value} {o : Option Nat}
    (h : Shape.fill none (Shape.optional size?) slot = some o) : ∀ n ∈ o, n < Word.bound32 := by
  rintro n rfl
  cases slot with
  | none => simp [Shape.fill] at h
  | some v =>
    have read : size? v = some n := by
      cases v with
      | null => simp [Shape.fill, Shape.optional] at h
      | _ => simpa [Shape.fill, Shape.optional] using h
    obtain ⟨m, _, hm⟩ := Option.bind_eq_some_iff.mp read
    split at hm
    · rename_i fits
      obtain rfl := Option.some.inj hm
      exact fits
    · cases hm

/-- Whatever is read as a chart has such sizes. -/
theorem sized_of_ofValue? {v : Value} {c : ChartConfig} (h : ofValue? v = some c) : c.Sized := by
  simp only [ofValue?, Option.bind_eq_bind, Option.bind_eq_some_iff] at h
  obtain ⟨slots, _, h⟩ := h
  split at h
  · simp only [Option.bind_eq_some_iff] at h
    obtain ⟨kind, _, xAxis, _, yAxis, _, category, _, categoryLabel, _, aggregation, _, title, _,
      width, hwidth, height, hheight, colors, _, legend, _, grid, _, h⟩ := h
    obtain rfl := Option.some.inj h
    exact ⟨size_of_fill hwidth, size_of_fill hheight⟩
  · cases h

/-- A chart is read back as it was written. -/
theorem ofValue?_toValue {c : ChartConfig} (sized : c.Sized) : ofValue? c.toValue = some c := by
  have slots : Shape.slots? [["type"], ["xAxis"], ["yAxis"], ["categoryField"],
      ["categoryFieldLabel"], ["aggregation"], ["title"], ["width"], ["height"], ["colors"],
      ["showLegend"], ["showGrid"]] c.toValue
      = some [c.kind.map fun k => .str k.name, c.xAxis.map (·.toValue), c.yAxis.map (·.toValue),
        c.categoryField.map .str, c.categoryLabel.map .str, c.aggregation.map (·.toValue),
        c.title.map .str, c.width.map .nat, c.height.map .nat,
        c.colors.map fun cs => .arr (cs.map .str), c.showLegend.map .bool, c.showGrid.map .bool] :=
    Shape.slots?_present [("type", _), ("xAxis", _), ("yAxis", _), ("categoryField", _),
      ("categoryFieldLabel", _), ("aggregation", _), ("title", _), ("width", _), ("height", _),
      ("colors", _), ("showLegend", _), ("showGrid", _)] (by simp)
  have kind : Shape.fill none (Shape.optional ChartKind.ofValue?)
      (c.kind.map fun k => .str k.name) = some c.kind :=
    Shape.fill_optional ChartKind.ofValue?_name (by simp) c.kind
  have axis (o : Option Axis) :
      Shape.fill none (Shape.optional Axis.ofValue?) (o.map (·.toValue)) = some o :=
    Shape.fill_optional Axis.ofValue?_toValue (by simp [Axis.toValue]) o
  have text (o : Option String) :
      Shape.fill none (Shape.optional Value.asStr?) (o.map .str) = some o :=
    Shape.optionalText_write o
  have flag (o : Option Bool) :
      Shape.fill none (Shape.optional Value.asBool?) (o.map .bool) = some o :=
    Shape.optionalFlag_write o
  have aggregation : Shape.fill none (Shape.optional Aggregator.ofValue?)
      (c.aggregation.map (·.toValue)) = some c.aggregation :=
    Shape.fill_optional Aggregator.ofValue?_toValue (by simp [Aggregator.toValue]) c.aggregation
  have size {o : Option Nat} (fits : ∀ n ∈ o, n < Word.bound32) :
      Shape.fill none (Shape.optional size?) (o.map .nat) = some o := by
    cases o with
    | none => rfl
    | some n => simp [Shape.fill, Shape.optional, Value.nat, size?, Value.asNat?, fits n rfl]
  have colors : Shape.fill none (Shape.optional (Shape.list? Value.asStr?))
      (c.colors.map fun cs => .arr (cs.map .str)) = some c.colors :=
    Shape.fill_optional Shape.texts?_write (by simp) c.colors
  rw [ofValue?, slots]
  simp only [Option.bind_eq_bind, Option.bind_some, kind, axis, text, aggregation,
    size sized.width, size sized.height, colors, flag]
  rfl

theorem legible_toValue {c : ChartConfig} (sized : c.Sized) {deepest : Nat} :
    c.toValue.Legible (deepest + 2) := by
  have flag (o : Option Bool) : ∀ v ∈ o.map Value.bool, v.Legible (deepest + 1) :=
    Value.legible_optional fun b _ => Value.legible_bool b
  have size {o : Option Nat} (fits : ∀ n ∈ o, n < Word.bound32) :
      ∀ v ∈ o.map Value.nat, v.Legible (deepest + 1) :=
    Value.legible_optional fun n hn => Value.legible_nat (Nat.lt_trans (fits n hn) (by decide))
  refine Value.legible_present (by simp) ?_
  simp only [List.forall_mem_cons]
  refine ⟨?_, ?_, ?_, ?_, ?_, ?_, ?_, size sized.width, size sized.height, ?_, flag _, flag _, ?_⟩
  all_goals simp [Axis.legible_toValue, Aggregator.toValue, Value.legible_list]

/-! What labels and a title leave alone. -/

theorem fieldOf_labelAxis (label : String → String) (axis : Option Axis) :
    fieldOf (axis.map (labelAxis label)) = fieldOf axis := by
  have kept (a : Axis) : (labelAxis label a).field = a.field := by
    rw [labelAxis]
    split <;> rfl
  cases axis with
  | none => rfl
  | some a => simp [fieldOf, kept]

section
variable (c : ChartConfig) (registry : Registry) (document : DocumentType) (language : String)

/-- A title replaces the title. -/
theorem labelled_eq : ∃ title, c.labelled registry document language
    = { c.withLabels (labelOf registry document language) with title } := by
  rw [labelled, withTitle]
  split
  · split <;> exact ⟨_, rfl⟩
  · exact ⟨_, rfl⟩

@[simp]
theorem kind_labelled : (c.labelled registry document language).kind = c.kind := by
  obtain ⟨title, h⟩ := c.labelled_eq registry document language
  rw [h]
  rfl

@[simp]
theorem aggregation_labelled :
    (c.labelled registry document language).aggregation = c.aggregation := by
  obtain ⟨title, h⟩ := c.labelled_eq registry document language
  rw [h]
  rfl

@[simp]
theorem xField_labelled : (c.labelled registry document language).xField = c.xField := by
  obtain ⟨title, h⟩ := c.labelled_eq registry document language
  rw [h]
  exact fieldOf_labelAxis _ c.xAxis

@[simp]
theorem yField_labelled : (c.labelled registry document language).yField = c.yField := by
  obtain ⟨title, h⟩ := c.labelled_eq registry document language
  rw [h]
  exact fieldOf_labelAxis _ c.yAxis

@[simp]
theorem category_labelled : (c.labelled registry document language).category = c.category := by
  obtain ⟨title, h⟩ := c.labelled_eq registry document language
  rw [h]
  rfl

variable {c}

theorem Sized.labelled (h : c.Sized) : (c.labelled registry document language).Sized := by
  obtain ⟨title, hlabelled⟩ := c.labelled_eq registry document language
  rw [hlabelled]
  exact ⟨h.width, h.height⟩

end

end ChartConfig

end RecordQuery
