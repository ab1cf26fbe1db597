import RecordQuery.Proofs.Bridge.Agreement
import RecordQuery.Proofs.Chart.Run
import RecordQuery.Proofs.Kpi.Figure
import RecordQuery.Proofs.Pivot.Run

/-!
# What is valid can be started

A configuration that passes validation is one that a session starts from, over a call and over a
line of text alike, and one that does not pass is told to the caller before anything is read. Pies
are the exception: one that aggregates without a measure passes, and fails over its first record.
-/

namespace RecordQuery

namespace AggregationInit

/-- The session starts as told, from its request and from the line that the request is sent on. -/
structure StartsAs (init : AggregationInit) (outcome : Except SessionError Session) : Prop where
  here : Session.start init = outcome
  sent : (Aggregator.readRequest init.toValue.text >>= Session.start) = outcome

theorem legible_toValue {init : AggregationInit} {deepest : Nat} (h : init.config.Legible deepest) :
    init.toValue.Legible (deepest + 2) := by
  have params : (Value.obj [("config", init.config)]).Legible (deepest + 1) :=
    Value.legible_obj (by simp [Fields.names]) (by simpa using h)
  exact Value.legible_obj (by simp [Fields.names]) (by simpa using params)

theorem startsAs_of_legible {init : AggregationInit} (h : init.config.Legible 5)
    {outcome : Except SessionError Session} (here : Session.start init = outcome) :
    init.StartsAs outcome := by
  have back : init.toValue.ReadsBack := (legible_toValue h).readsBack (by decide)
  refine ⟨here, ?_⟩
  rw [Aggregator.readRequest_text back]
  exact here

end AggregationInit

namespace KpiConfig

theorem legible_toValue (c : KpiConfig) {deepest : Nat} : c.toValue.Legible (deepest + 1) :=
  Value.legible_present (by simp) (by simp [Aggregator.toValue])

theorem legible_sessionValue (operation : Aggregator) (path : String) {deepest : Nat} :
    (sessionValue operation path).Legible (deepest + 1) :=
  Value.legible_obj (by simp [Fields.names]) (by simp [Aggregator.toValue])

theorem ofValue?_toValue (c : KpiConfig) : ofValue? c.toValue = some c := by
  have slots : Shape.slots? [["operation"], ["field"]] c.toValue
      = some [some c.operation.toValue, c.fieldText.map .str] :=
    Shape.slots?_present [("operation", some _), ("field", _)] (by simp)
  have field : Shape.fill none (Shape.optional Value.asStr?) (c.fieldText.map .str)
      = some c.fieldText := Shape.optionalText_write c.fieldText
  rw [ofValue?, slots]
  simp [Aggregator.ofValue?_toValue, field]

theorem exists_start {c : KpiConfig} (valid : c.validate = .ok ()) :
    ∃ s, Session.start ⟨.kpi, c.toValue⟩ = .ok s := by
  rw [validate] at valid
  split at valid
  · cases valid
  · rename_i complete
    have started : KeyFigure.start c = .ok ⟨c.operation, c.field, .empty⟩ :=
      if_neg fun h => complete h.symm
    refine ⟨.kpi ⟨c.operation, c.field, .empty⟩, ?_⟩
    rw [Session.start]
    simp only [ofValue?_toValue, started]
    rfl

end KpiConfig

/-- Validated configurations start a session, filled in from a registry and written as values. -/
structure ValidStarts (registry : Registry) (document : DocumentType) (language : String) :
    Prop where
  pivot : ∀ config : PivotConfig, config.validate = .ok () →
    config.rows.length ≤ Word.bound64 → ∃ s, AggregationInit.StartsAs
      ⟨.pivot, (config.layout registry document language).toValue⟩ (.ok s)
  chart : ∀ config : ChartConfig, config.Sized →
    (∃ kind, ChartConfig.validate (some config) = .ok (config, kind)) → ¬ config.Unmeasured →
      ∃ s, AggregationInit.StartsAs
        ⟨.graph, (config.labelled registry document language).toValue⟩ (.ok s)
  /-- But these never start. -/
  unmeasured : ∀ config : ChartConfig, config.Sized →
    (∃ kind, ChartConfig.validate (some config) = .ok (config, kind)) → config.Unmeasured →
      AggregationInit.StartsAs
        ⟨.graph, (config.labelled registry document language).toValue⟩ (.error .measureMissing)
  kpi : ∀ config : KpiConfig, config.validate = .ok () →
    ∃ s, AggregationInit.StartsAs ⟨.kpi, config.toValue⟩ (.ok s)
  /-- A figure is computed for the field without its blanks. -/
  figure : ∀ (config : KpiConfig) (path : String), config.field = some path →
    ∃ s, AggregationInit.StartsAs ⟨.kpi, KpiConfig.sessionValue config.operation path⟩ (.ok s)

theorem validStarts (registry : Registry) (document : DocumentType) (language : String) :
    ValidStarts registry document language where
  pivot config valid few := by
    obtain ⟨empty, started⟩ := PivotConfig.start_layout valid registry document language
    have here := Session.start_pivot (config.layout registry document language)
    rw [started] at here
    exact ⟨.pivot empty, AggregationInit.startsAs_of_legible
      (PivotConfig.legible_layout few registry document language) here⟩
  chart config sized valid measured := by
    obtain ⟨kind, valid⟩ := valid
    obtain ⟨chart, here⟩ := Session.exists_start_graph sized
      (ChartConfig.validate_eq_ok_iff.mp valid).2 measured registry document language
    exact ⟨.graph chart, AggregationInit.startsAs_of_legible
      (ChartConfig.legible_toValue (sized.labelled registry document language)) here⟩
  unmeasured config sized valid unmeasured := by
    obtain ⟨kind, valid⟩ := valid
    exact AggregationInit.startsAs_of_legible
      (ChartConfig.legible_toValue (sized.labelled registry document language))
      (Session.start_graph_of_unmeasured sized (ChartConfig.validate_eq_ok_iff.mp valid).2
        unmeasured registry document language)
  kpi config valid := by
    obtain ⟨s, here⟩ := KpiConfig.exists_start valid
    exact ⟨s, AggregationInit.startsAs_of_legible config.legible_toValue here⟩
  figure config path asked :=
    ⟨_, AggregationInit.startsAs_of_legible (KpiConfig.legible_sessionValue config.operation path)
      (KpiConfig.start_sessionValue config.operation (KpiConfig.trimmed_of_field asked))⟩

namespace AggregationEngine

/-- The caller is told what is wrong with the configuration, over any store. -/
def TellsCaller {α : Type} (e : AggregationError) (outcome : Except QueryError α) : Prop :=
  e.status = 400 ∧ outcome = .error (.aggregation e)

theorem pivot_of_invalid {config : PivotConfig} {e : AggregationError}
    (invalid : config.validate = .error e) (a : AggregationEngine) (request : AggregationRequest) :
    TellsCaller e (a.pivot request config) := by
  refine ⟨?_, by rw [pivot, invalid]; rfl⟩
  rw [PivotConfig.validate] at invalid
  split at invalid
  · cases invalid
    rfl
  · split at invalid
    · cases invalid
      rfl
    · cases invalid

theorem chart_of_invalid {config : Option ChartConfig} {e : AggregationError}
    (invalid : ChartConfig.validate config = .error e) (a : AggregationEngine)
    (request : AggregationRequest) : TellsCaller e (a.chart request config) := by
  refine ⟨?_, by rw [chart, invalid]; rfl⟩
  cases config with
  | none =>
    cases invalid
    rfl
  | some c =>
    rw [ChartConfig.validate] at invalid
    cases hkind : c.kind with
    | none =>
      rw [hkind] at invalid
      cases invalid
      rfl
    | some kind =>
      -- One missing field after the other.
      simp only [hkind] at invalid
      split at invalid
      · cases invalid
        rfl
      · split at invalid
        · cases invalid
          rfl
        · split at invalid
          · cases invalid
            rfl
          · cases invalid

theorem kpi_of_invalid {config : KpiConfig} {e : AggregationError}
    (invalid : config.validate = .error e) (a : AggregationEngine) (request : AggregationRequest) :
    TellsCaller e (a.kpi request config) := by
  rw [KpiConfig.validate] at invalid
  split at invalid
  · rename_i incomplete
    obtain rfl := Except.error.inj invalid
    refine ⟨rfl, ?_⟩
    rw [kpi, incomplete.2]
    cases hoperation : config.operation with
    | count => exact absurd hoperation incomplete.1
    | _ => rfl
  · cases invalid

/-- Whatever does not pass validation. -/
structure TellsInvalid (a : AggregationEngine) (request : AggregationRequest) : Prop where
  pivot : ∀ (config : PivotConfig) (e : AggregationError), config.validate = .error e →
    TellsCaller e (a.pivot request config)
  chart : ∀ (config : Option ChartConfig) (e : AggregationError),
    ChartConfig.validate config = .error e → TellsCaller e (a.chart request config)
  kpi : ∀ (config : KpiConfig) (e : AggregationError), config.validate = .error e →
    TellsCaller e (a.kpi request config)

/-- A chart over a stream with records that does not fail, once it has passed validation. -/
def DrawsMeasured (a : AggregationEngine) (request : AggregationRequest) : Prop :=
  ∀ (config : ChartConfig) (document : DocumentType) (found : FindStream), config.Sized →
    (∃ kind, ChartConfig.validate (some config) = .ok (config, kind)) →
    a.engine.registry.document? request.document = some document →
    config.checkFields document = .ok () →
    a.engine.find (a.chartRead request config document) = .ok found →
    found.stream.records ≠ [] → found.stream.failure = none →
      ((∃ result, a.chart request (some config) = .ok result) ↔ ¬ config.Unmeasured) ∧
      (config.Unmeasured → a.chart request (some config) = .error (.aggregation (.chart
        (.processing (Backend.reported .measureMissing).message))))

theorem drawsMeasured {a : AggregationEngine} (here : a.backend = Backend.inProcess)
    (request : AggregationRequest) : a.DrawsMeasured request := by
  intro config document found sized valid known declared opened nonempty noFailure
  obtain ⟨kind, valid⟩ := valid
  have complete := (ChartConfig.validate_eq_ok_iff.mp valid).2
  have failed := fun unmeasured => chart_of_unmeasured here sized complete unmeasured known
    declared opened nonempty
  refine ⟨⟨fun ⟨result, drawn⟩ unmeasured => ?_, fun measured => ?_⟩, failed⟩
  · cases (failed unmeasured).symm.trans drawn
  · exact exists_chart here sized complete measured known declared opened nonempty noFailure

/-- What passes validation is started, whichever way it is sent, and what does not is told to the
caller, whatever is stored. Only pies that aggregate without a measure pass and do not start: over
records they end in a failure of the server. Charts are sized, as all are that are read. -/
theorem valid_starts (a : AggregationEngine) (request : AggregationRequest)
    (here : a.backend = Backend.inProcess) :
    (∀ v config, ChartConfig.ofValue? v = some config → config.Sized) ∧
      (∀ registry document language, ValidStarts registry document language) ∧
      a.TellsInvalid request ∧ a.DrawsMeasured request :=
  ⟨fun _ _ => ChartConfig.sized_of_ofValue?, validStarts,
    ⟨fun _ _ invalid => pivot_of_invalid invalid a request,
      fun _ _ invalid => chart_of_invalid invalid a request,
      fun _ _ invalid => kpi_of_invalid invalid a request⟩, drawsMeasured here request⟩

end AggregationEngine

namespace Deals

/-- A pie of the notes. -/
def notesPie (aggregation : Option Aggregator) : ChartConfig where
  kind := some .pie
  xAxis := none
  yAxis := none
  categoryField := some "notes"
  categoryLabel := none
  aggregation
  title := none
  width := some 320
  height := none
  colors := none
  showLegend := none
  showGrid := none

theorem sized_notesPie (aggregation : Option Aggregator) : (notesPie aggregation).Sized :=
  ⟨by simp [notesPie, Word.bound32], by simp [notesPie]⟩

theorem checkFields_notesPie (aggregation : Option Aggregator) :
    (notesPie aggregation).checkFields document = .ok () := by
  have fields : (notesPie aggregation).fields = ["notes"] := rfl
  rw [ChartConfig.checkFields, fields]
  exact if_pos (by decide +kernel)

end Deals

/-- Notes are counted in a pie, listed in a pivot and summed, and no rows are no pivot. -/
theorem AggregationEngine.valid_starts_notes :
    (∃ s, AggregationInit.StartsAs
      ⟨.graph, ((Deals.notesPie none).labelled Deals.registry Deals.document "en").toValue⟩
        (.ok s)) ∧
    (∃ s, AggregationInit.StartsAs
      ⟨.pivot, (Deals.byNote.layout Deals.registry Deals.document "en").toValue⟩ (.ok s)) ∧
    (∃ s, AggregationInit.StartsAs ⟨.kpi, KpiConfig.toValue ⟨.sum, some " notes"⟩⟩ (.ok s)) ∧
    TellsCaller .pivotRowsMissing
      ((Deals.pivots Deals.calls.store).pivot (.new "Deal") .empty) ∧
    ∃ result, (Deals.pivots Deals.calls.store).chart (.new "Deal") (some (Deals.notesPie none))
      = .ok result := by
  have here : (Deals.pivots Deals.calls.store).backend = Backend.inProcess := rfl
  obtain ⟨sizes, starts, tells, draws⟩ :=
    valid_starts (Deals.pivots Deals.calls.store) (.new "Deal") here
  have valid : ∃ kind, ChartConfig.validate (some (Deals.notesPie none))
      = .ok (Deals.notesPie none, kind) := ⟨.pie, rfl⟩
  have measured : ¬ (Deals.notesPie none).Unmeasured := by
    rintro ⟨_, _, operation, none, _⟩
    cases none
  have sized := sizes (.obj [("type", .str "pie"), ("categoryField", .str "notes"),
    ("width", .nat 320)]) (Deals.notesPie none) rfl
  have started := starts Deals.registry Deals.document "en"
  refine ⟨started.chart _ sized valid measured, started.pivot _ rfl (by decide),
    started.kpi _ rfl, tells.pivot _ _ rfl, ?_⟩
  exact (draws _ Deals.document _ sized valid rfl (Deals.checkFields_notesPie none) rfl
    (by decide +kernel) rfl).1.mpr measured

/-- A pie of the summed notes lacks its measure. Validation lets it pass, the session refuses it,
and over two deals it is a failure of the server. -/
theorem AggregationEngine.refuses_notesPie :
    ChartConfig.validate (some (Deals.notesPie (some .sum)))
      = .ok (Deals.notesPie (some .sum), .pie) ∧
    Session.start ⟨.graph,
      ((Deals.notesPie (some .sum)).labelled Deals.registry Deals.document "en").toValue⟩
        = .error .measureMissing ∧
    ∃ e, (Deals.pivots Deals.calls.store).chart (.new "Deal") (some (Deals.notesPie (some .sum)))
      = .error (.aggregation e) ∧ e.status = 500 ∧ e.code = "GRAPH_PROCESSING_ERROR" := by
  have complete : (Deals.notesPie (some .sum)).Complete .pie :=
    ⟨rfl, by decide, by decide, by decide⟩
  have unmeasured : (Deals.notesPie (some .sum)).Unmeasured := ⟨rfl, rfl, .sum, rfl, by decide⟩
  have sized := Deals.sized_notesPie (some .sum)
  refine ⟨ChartConfig.validate_eq_ok_iff.mpr ⟨rfl, complete⟩,
    Session.start_graph_of_unmeasured sized complete unmeasured _ _ _, _,
    chart_of_unmeasured rfl sized complete unmeasured rfl (Deals.checkFields_notesPie _) rfl
      (by decide +kernel), rfl, rfl⟩

end RecordQuery
