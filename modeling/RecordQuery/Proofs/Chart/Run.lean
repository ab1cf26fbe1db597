import RecordQuery.Chart.Run
import RecordQuery.Proofs.Chart.Config
import RecordQuery.Proofs.Outcome

/-!
# Which charts can be computed

A chart passes its validation if it names every field that its kind needs. All of these can be
computed but pies that aggregate without a measure: validation asks for none, and computing needs
one.
-/

namespace RecordQuery

namespace ChartConfig

/-- The chart names every field that its kind needs. -/
structure Complete (c : ChartConfig) (kind : ChartKind) : Prop where
  typed : c.kind = some kind
  category : kind = .pie → c.category ≠ none
  x : needsX kind = true → c.xField ≠ none
  y : c.needsY kind = true → c.yField ≠ none

/-- A pie of anything but the number of records, without a measure. -/
def Unmeasured (c : ChartConfig) : Prop :=
  c.kind = some .pie ∧ c.yField = none ∧
    ∃ operation, c.aggregation = some operation ∧ operation ≠ .count

theorem validate_eq_ok_iff {c d : ChartConfig} {kind : ChartKind} :
    validate (some c) = .ok (d, kind) ↔ c = d ∧ c.Complete kind := by
  rw [validate]
  cases hkind : c.kind with
  | none =>
    simp only [reduceCtorEq, false_iff, not_and]
    intro _ complete
    cases hkind.symm.trans complete.typed
  | some k =>
    dsimp only
    constructor
    · intro h
      split at h
      · cases h
      · rename_i category
        split at h
        · cases h
        · rename_i x
          split at h
          · cases h
          · rename_i y
            obtain ⟨rfl, rfl⟩ := Prod.mk.inj (Except.ok.inj h)
            exact ⟨rfl, hkind, fun h none => category ⟨h, none⟩, fun h none => x ⟨h, none⟩,
              fun h none => y ⟨h, none⟩⟩
    · rintro ⟨rfl, complete⟩
      obtain rfl := Option.some.inj (hkind.symm.trans complete.typed)
      rw [if_neg fun h => complete.category h.1 h.2, if_neg fun h => complete.x h.1 h.2,
        if_neg fun h => complete.y h.1 h.2]

/-- Whatever is aggregated along an axis is measured. -/
theorem needsY_aggregated {c : ChartConfig} {kind : ChartKind} (axes : needsX kind = true)
    {operation : Aggregator} (hoperation : c.aggregation = some operation)
    (folds : operation ≠ .count) : c.needsY kind = true := by
  cases kind with
  | pie | histogram => cases axes
  | _ => simp [needsY, hoperation, folds]

/-- Points are measured. -/
theorem needsY_points {c : ChartConfig} {kind : ChartKind} (axes : needsX kind = true)
    (others : kind ≠ .bar) (bare : c.aggregation = none) : c.needsY kind = true := by
  cases kind with
  | pie | histogram => cases axes
  | bar => exact absurd rfl others
  | _ => simp [needsY, bare]

end ChartConfig

namespace Series

/-- Labels change nothing of what a chart reads. -/
theorem start_labelled (c : ChartConfig) (registry : Registry) (document : DocumentType)
    (language : String) (kind : ChartKind) :
    start (c.labelled registry document language) kind = start c kind := by
  simp only [start, axisKey, ChartConfig.xField_labelled, ChartConfig.yField_labelled,
    ChartConfig.category_labelled, ChartConfig.aggregation_labelled]

theorem exists_group {aggregator : Aggregator} {valueField : Option String}
    (measured : aggregator ≠ .count → valueField ≠ none) (keyField : String) :
    ∃ s, group keyField aggregator valueField = .ok s :=
  ⟨_, if_neg fun h => measured h.1 h.2⟩

variable {c : ChartConfig} {kind : ChartKind}

/-- What is aggregated along an axis. -/
theorem start_aggregated (axes : ChartConfig.needsX kind = true) {x : String}
    (hx : c.xField = some x) {operation : Aggregator} (hoperation : c.aggregation = some operation) :
    start c kind = group x operation c.yField := by
  have key : axisKey c kind = .ok x := by
    rw [axisKey, hx]
    rfl
  cases kind with
  | pie | histogram => cases axes
  | _ =>
    simp only [start, hoperation, key]
    rfl

/-- What is drawn along an axis as it is. -/
theorem start_points (axes : ChartConfig.needsX kind = true) {x y : String}
    (hx : c.xField = some x) (hy : c.yField = some y) (bare : c.aggregation = none) :
    start c kind = .ok (.points x y #[]) := by
  have key : axisKey c kind = .ok x := by
    rw [axisKey, hx]
    rfl
  cases kind with
  | pie | histogram => cases axes
  | _ =>
    simp only [start, bare, hy, key]
    rfl

/-- Bars without a measure count. -/
theorem start_counted {x : String} (hx : c.xField = some x) (hy : c.yField = none)
    (bare : c.aggregation = none) : start c .bar = group x .count none := by
  simp only [start, axisKey, bare, hx, hy]
  rfl

/-- With an x axis there is a measure wherever one is needed. -/
theorem exists_start_of_axes (axes : ChartConfig.needsX kind = true) (complete : c.Complete kind) :
    ∃ s, start c kind = .ok s := by
  obtain ⟨x, hx⟩ := Option.ne_none_iff_exists'.mp (complete.x axes)
  cases hoperation : c.aggregation with
  | some operation =>
    rw [start_aggregated axes hx hoperation]
    exact exists_group
      (fun folds => complete.y (ChartConfig.needsY_aggregated axes hoperation folds)) x
  | none =>
    cases hy : c.yField with
    | some y => exact ⟨_, start_points axes hx hy hoperation⟩
    | none =>
      -- Only bars can do without.
      obtain rfl : kind = .bar := Decidable.byContradiction fun others =>
        complete.y (ChartConfig.needsY_points axes others hoperation) hy
      rw [start_counted hx hy hoperation]
      exact exists_group (absurd rfl) x

/-- What validation lets pass can be started, unless it is a pie that lacks its measure. -/
theorem exists_start (complete : c.Complete kind) (measured : ¬ c.Unmeasured) :
    ∃ s, start c kind = .ok s := by
  cases kind with
  | pie =>
    obtain ⟨category, hcategory⟩ := Option.ne_none_iff_exists'.mp (complete.category rfl)
    have started : start c .pie = group category (c.aggregation.getD .count) c.yField := by
      rw [start, hcategory]
      rfl
    rw [started]
    refine exists_group (fun folds hy => measured ⟨complete.typed, hy, ?_⟩) category
    cases hoperation : c.aggregation with
    | none => exact absurd (by rw [hoperation]; rfl) folds
    | some operation => exact ⟨operation, rfl, by simpa [hoperation] using folds⟩
  | histogram =>
    obtain ⟨y, hy⟩ := Option.ne_none_iff_exists'.mp (complete.y rfl)
    refine ⟨.samples y #[], ?_⟩
    rw [start, hy]
    rfl
  | bar | line | scatter | timeSeries => exact exists_start_of_axes rfl complete

theorem start_of_unmeasured (complete : c.Complete kind) (unmeasured : c.Unmeasured) :
    start c kind = .error .measureMissing := by
  obtain ⟨hkind, hy, operation, hoperation, folds⟩ := unmeasured
  obtain rfl := Option.some.inj (complete.typed.symm.trans hkind)
  obtain ⟨category, hcategory⟩ := Option.ne_none_iff_exists'.mp (complete.category rfl)
  rw [start, hcategory, hoperation, hy]
  exact if_pos ⟨folds, rfl⟩

end Series

namespace Session

variable {c : ChartConfig} {kind : ChartKind}

theorem start_graph (sized : c.Sized) (hkind : c.kind = some kind) (registry : Registry)
    (document : DocumentType) (language : String) :
    start ⟨.graph, (c.labelled registry document language).toValue⟩
      = (Series.start c kind).map fun series =>
          graph ⟨c.labelled registry document language, kind, series, 0⟩ := by
  rw [start]
  simp only [ChartConfig.ofValue?_toValue (sized.labelled registry document language), Chart.start,
    ChartConfig.kind_labelled, hkind, Series.start_labelled]
  change (Series.start c kind >>= _).map graph = _
  cases Series.start c kind <;> rfl

theorem exists_start_graph (sized : c.Sized) (complete : c.Complete kind)
    (measured : ¬ c.Unmeasured) (registry : Registry) (document : DocumentType)
    (language : String) :
    ∃ chart, start ⟨.graph, (c.labelled registry document language).toValue⟩
      = .ok (.graph chart) := by
  obtain ⟨series, hseries⟩ := Series.exists_start complete measured
  rw [start_graph sized complete.typed, hseries]
  exact ⟨_, rfl⟩

theorem start_graph_of_unmeasured (sized : c.Sized) (complete : c.Complete kind)
    (unmeasured : c.Unmeasured) (registry : Registry) (document : DocumentType)
    (language : String) :
    start ⟨.graph, (c.labelled registry document language).toValue⟩
      = .error .measureMissing := by
  rw [start_graph sized complete.typed, Series.start_of_unmeasured complete unmeasured]
  rfl

theorem pushAll_graph (chart : Chart) (records : List Record) :
    (graph chart).pushAll records = graph (records.foldl Chart.push chart) := by
  induction records generalizing chart with
  | nil => rfl
  | cons r rest ih => exact ih (chart.push r)

end Session

namespace AggregationEngine

/-- The read behind a chart. -/
def chartRead (a : AggregationEngine) (request : AggregationRequest) (config : ChartConfig)
    (document : DocumentType) : FindRequest :=
  let plan := FieldPlan.ofPaths document
    (config.labelled a.engine.registry document request.language).fields
  { request.findRequest plan.fieldList a.cap with lookups := plan.lookups }

variable {a : AggregationEngine} {request : AggregationRequest} {config : ChartConfig}
  {kind : ChartKind} {document : DocumentType} {found : FindStream}

/-- What becomes of a chart once its read is open with a first record. -/
theorem chart_of_find (complete : config.Complete kind)
    (known : a.engine.registry.document? request.document = some document)
    (declared : config.checkFields document = .ok ())
    (opened : a.engine.find (a.chartRead request config document) = .ok found)
    (nonempty : found.stream.records ≠ []) :
    a.chart request (some config)
      = (((a.backend ⟨.graph, (config.labelled a.engine.registry document
          request.language).toValue⟩ found.stream).bind
            AggregationOutput.asDrawing).mapError fun e =>
              QueryError.aggregation (.chart (.processing e.message))).map fun svg =>
                ⟨svg, found.total.bind (·.toOption)⟩ := by
  have valid : ChartConfig.validate (some config) = .ok (config, kind) :=
    ChartConfig.validate_eq_ok_iff.mpr ⟨rfl, complete⟩
  rw [chart, valid, documentOf, known]
  change ((config.checkFields document).mapError QueryError.aggregation >>= fun _ =>
    a.openRecords (a.chartRead request config document) >>= _) = _
  rw [declared, openRecords, opened]
  obtain ⟨⟨records, failure⟩, total⟩ := found
  obtain ⟨first, rest, rfl⟩ := List.exists_cons_of_ne_nil nonempty
  change ((_ : Except QueryError String) >>= _) = _
  generalize Except.mapError _ _ = drawn
  cases drawn <;> rfl

/-- A chart over a stream with records is drawn if it can be started and the stream does not
fail. -/
theorem exists_chart (here : a.backend = Backend.inProcess) (sized : config.Sized)
    (complete : config.Complete kind) (measured : ¬ config.Unmeasured)
    (known : a.engine.registry.document? request.document = some document)
    (declared : config.checkFields document = .ok ())
    (opened : a.engine.find (a.chartRead request config document) = .ok found)
    (nonempty : found.stream.records ≠ []) (noFailure : found.stream.failure = none) :
    ∃ result, a.chart request (some config) = .ok result := by
  obtain ⟨chart, started⟩ := Session.exists_start_graph sized complete measured a.engine.registry
    document request.language
  rw [chart_of_find complete known declared opened nonempty, here, Backend.inProcess, started,
    noFailure]
  change ∃ result, (((Except.ok ((Session.graph chart).pushAll
    found.stream.records).finish).bind AggregationOutput.asDrawing).mapError _).map _ = _
  rw [Session.pushAll_graph]
  exact ⟨_, rfl⟩

/-- A pie without its measure is found out when the records are there. -/
theorem chart_of_unmeasured (here : a.backend = Backend.inProcess) (sized : config.Sized)
    (complete : config.Complete kind) (unmeasured : config.Unmeasured)
    (known : a.engine.registry.document? request.document = some document)
    (declared : config.checkFields document = .ok ())
    (opened : a.engine.find (a.chartRead request config document) = .ok found)
    (nonempty : found.stream.records ≠ []) :
    a.chart request (some config) = .error (.aggregation (.chart (.processing
      (Backend.reported .measureMissing).message))) := by
  rw [chart_of_find complete known declared opened nonempty, here, Backend.inProcess,
    Session.start_graph_of_unmeasured sized complete unmeasured]
  rfl

end AggregationEngine

end RecordQuery
