import RecordQuery.Proofs.Access.OpenField
import RecordQuery.Proofs.Aggregation.FieldPlan
import RecordQuery.Proofs.Aggregation.Reading
import RecordQuery.Proofs.Find.Confinement
import RecordQuery.Proofs.Kpi.Figure
import RecordQuery.Proofs.Pivot.Run

/-!
# Figures over stored records

A key figure is taken over what the caller sees of the matching records. What is stored there is
seen, in every record, exactly if the path that is fetched covers the path that is read. Behind a
lookup, at a position of a list, and for a whole field with a single part it does not, and stored
readings are lost.
-/

namespace RecordQuery

namespace AccessProjection

/-- What the caller sees of a stored record. -/
def seen (a : AccessProjection) (r : Record) : Record := (a.view r).toOption.getD []

end AccessProjection

namespace AggregationEngine

/-- The read behind a key figure. -/
def kpiRead (a : AggregationEngine) (request : AggregationRequest) (document : DocumentType)
    (path : String) : FindRequest :=
  let plan := FieldPlan.ofPaths document [path]
  { request.findRequest plan.fieldList a.cap with withTotal := false, datesToText := false }

variable {a : AggregationEngine} {request : AggregationRequest} {config : KpiConfig}
  {document : DocumentType} {path : String} {f : Field} {built : BuiltQuery} {m : Memory}
  {p : Predicate}

/-- No later stage changes what the caller sees. -/
theorem kpiRead_stages {profile : Profile}
    (settled : a.engine.Settled (a.kpiRead request document path) built profile) (r : Record) :
    Stage.run (a.engine.stages built (a.kpiRead request document path))
      (built.plan.projection.apply r) = .ok (built.access.seen r) := by
  obtain ⟨shown, hshown⟩ := Access.project_view settled.access r
  have hseen : built.access.seen r = shown := by
    rw [AccessProjection.seen, hshown]
    rfl
  obtain ⟨masked, hmasked, hstripped⟩ := bind_eq_ok_iff.mp hshown
  obtain rfl := Except.ok.inj hstripped
  rw [hseen, settled.projection, QueryEngine.stages_eq]
  exact bind_eq_ok_iff.mpr ⟨masked, mapError_eq_ok_iff.mpr hmasked, rfl⟩

/-- What becomes of a key figure once its read has ended. -/
theorem kpi_of_find (here : a.backend = Backend.inProcess) (folds : config.operation ≠ .count)
    (asked : config.field = some path)
    (known : a.engine.registry.document? request.document = some document) {found : FindStream}
    (opened : a.engine.find (a.kpiRead request document path) = .ok found)
    {records : List Record} (whole : found.stream = ⟨records, none⟩) :
    a.kpi request config = .ok (KpiResult.folded config.operation
      (records.map fun r => Record.reading? r path)).shown := by
  have fold : a.kpi request config = a.kpiFold request config.operation path := by
    rw [kpi, asked]
    cases hoperation : config.operation with
    | count => exact absurd hoperation folds
    | _ => rfl
  rw [fold, kpiFold, documentOf, known]
  change (a.openRecords (a.kpiRead request document path) >>= _) = _
  rw [openRecords, opened]
  obtain ⟨stream, total⟩ := found
  obtain rfl : stream = ⟨records, none⟩ := whole
  cases records with
  | nil => exact congrArg Except.ok (KpiResult.shown_folded_nil config.operation).symm
  | cons first rest =>
    change (Except.ok (some (OpenedRecords.mk ⟨first :: rest, none⟩ total)) >>= _) = _
    simp only [here, Backend.inProcess_kpi config.operation (KpiConfig.trimmed_of_field asked)]
    rw [← KeyFigure.ofTable_ofReadings folds (some path)]
    rfl

/-- Every matching record reaches the figure, as the caller sees it. -/
theorem kpi_eq_folded (here : a.backend = Backend.inProcess) (memory : a.engine.store = m.store)
    (noLimit : ∀ n, request.limit = some n → n ≤ 0) (folds : config.operation ≠ .count)
    (asked : config.field = some path)
    (known : a.engine.registry.document? request.document = some document)
    (checked : a.engine.build (a.kpiRead request document path) = .ok built)
    (read : Query.read built.plan.query = .ok p)
    (few : (m.matching request.document p).length ≤ min a.cap AggregationRequest.greatestLimit) :
    ∃ stored : List Record, stored.Perm (m.matching request.document p) ∧
      a.kpi request config = .ok (KpiResult.folded config.operation
        (stored.map fun r => Record.reading? (built.access.seen r) path)).shown := by
  obtain ⟨profile, settled⟩ := QueryEngine.build_eq_ok checked
  let plan := FieldPlan.ofPaths document [path]
  obtain ⟨skip, limit⟩ := AggregationRequest.page_of_settled settled a.cap_pos rfl
    (AggregationRequest.limit_findRequest noLimit plan.fieldList)
  let stored := m.select request.document built.plan p
  refine ⟨stored, Memory.select_perm skip fun most hmost => ?_, ?_⟩
  · obtain rfl := Option.some.inj (limit.symm.trans hmost)
    exact few
  have found : a.engine.store.find request.document built.plan
      = .ok ((stored.map built.plan.projection.apply).map .ok) := by
    rw [memory]
    exact Memory.find_of_read read
  have opened : a.engine.find (a.kpiRead request document path)
      = .ok ⟨.ofCursor (a.engine.stages built (a.kpiRead request document path))
          ((stored.map built.plan.projection.apply).map .ok), none⟩ :=
    bind_eq_ok_iff.mpr ⟨built, checked,
      bind_eq_ok_iff.mpr ⟨_, mapError_eq_ok_iff.mpr found, rfl⟩⟩
  have passes : RecordStream.Passes (a.engine.stages built (a.kpiRead request document path))
      (stored.map built.plan.projection.apply) (stored.map built.access.seen) := by
    rw [RecordStream.Passes, List.forall₂_map_left_iff, List.forall₂_map_right_iff]
    exact List.forall₂_same.mpr fun r _ => kpiRead_stages settled r
  have := kpi_of_find here folds asked known opened (RecordStream.ofCursor_of_passes passes)
  rw [List.map_map] at this
  exact this

/-- The one path that is fetched of an open field, and nothing besides. -/
theorem access_of_opens {profile : Profile}
    (settled : a.engine.Settled (a.kpiRead request document path) built profile)
    (declared : document.field? (Path.root path) = some f) (opens : profile.Opens (Path.root path))
    (listed : FindRequest.Listed path) : built.access = ⟨.only [f.fetched path], [], []⟩ := by
  have fields : FindRequest.fieldSet (a.kpiRead request document path).fields
      = FindRequest.fieldSet (some (FieldPlan.ofPaths document [path]).fieldList) :=
    AggregationRequest.fieldSet_findRequest request _ a.cap
  obtain ⟨nonempty, each⟩ := FieldPlan.listed_ofPaths declared listed
  have access := settled.access
  rw [fields] at access
  rw [Access.project_of_opens opens ?_ ?_ access,
    FieldPlan.clearCollisions_fieldSet declared listed]
  · obtain ⟨q, hq⟩ := List.exists_mem_of_ne_nil _ nonempty
    exact List.ne_nil_of_mem ((FieldPlan.mem_fieldSet declared listed).mpr hq)
  · exact fun q hq => (each q ((FieldPlan.mem_fieldSet declared listed).mp hq)).2

/-- A path without commas keeps its reading in every record exactly if it is fetched whole. The
identifier is there in any case, so it may keep more. -/
theorem seen_keeps {profile : Profile}
    (settled : a.engine.Settled (a.kpiRead request document path) built profile)
    (declared : document.field? (Path.root path) = some f) (opens : profile.Opens (Path.root path))
    (listed : FindRequest.Listed path) :
    (f.Fetches path → ∀ r : Record, r.Distinct →
      Record.reading? (built.access.seen r) path = Record.reading? r path) ∧
    (Path.root path ≠ "_id" → (∀ r : Record, r.Distinct →
      Record.reading? (built.access.seen r) path = Record.reading? r path) → f.Fetches path) := by
  have tidy : (Projection.only [f.fetched path]).Tidy := by
    simp [Projection.Tidy]
  rw [access_of_opens settled declared opens listed]
  rw [← Field.covers_fetched_iff]
  exact ⟨fun covers => covers.keepsReading tidy, fun notId keeps =>
    (Projection.keepsReading_iff tidy notId).mp keeps⟩

/-- A key figure is the operation over one reading of each matching record, taken of what the caller
sees. If the path has no comma, that is the stored reading, whatever is stored, exactly if the path
is fetched whole; then the figure is over the records as they are stored. -/
theorem kpi_folds (a : AggregationEngine) (request : AggregationRequest) (config : KpiConfig)
    (m : Memory) (here : a.backend = Backend.inProcess) (memory : a.engine.store = m.store)
    (noLimit : ∀ n, request.limit = some n → n ≤ 0) (folds : config.operation ≠ .count)
    {path : String} (asked : config.field = some path) {document : DocumentType}
    (known : a.engine.registry.document? request.document = some document) {f : Field}
    (declared : document.field? (Path.root path) = some f) {built : BuiltQuery}
    (checked : a.engine.build (a.kpiRead request document path) = .ok built)
    (opens : ∀ profile, Access.profileFor? request.document built.user a.engine.registry
      = some profile → profile.Opens (Path.root path))
    {p : Predicate} (read : Query.read built.plan.query = .ok p)
    (few : (m.matching request.document p).length ≤ min a.cap AggregationRequest.greatestLimit)
    (distinct : ∀ r ∈ m.records request.document, r.Distinct) :
    ∃ stored : List Record, stored.Perm (m.matching request.document p) ∧
      a.kpi request config = .ok (KpiResult.folded config.operation
        (stored.map fun r => Record.reading? (built.access.seen r) path)).shown ∧
      (',' ∉ path.toList →
        (f.Fetches path → a.kpi request config = .ok (KpiResult.folded config.operation
          (stored.map fun r => Record.reading? r path)).shown) ∧
        (Path.root path ≠ "_id" →
          ((∀ r : Record, r.Distinct →
              Record.reading? (built.access.seen r) path = Record.reading? r path) ↔
            f.Fetches path))) := by
  obtain ⟨profile, settled⟩ := QueryEngine.build_eq_ok checked
  obtain ⟨stored, perm, hkpi⟩ :=
    kpi_eq_folded here memory noLimit folds asked known checked read few
  refine ⟨stored, perm, hkpi, fun noComma => ?_⟩
  obtain ⟨kept, needed⟩ := seen_keeps settled declared (opens profile settled.granted)
    ⟨noComma, KpiConfig.trimmed_of_field asked⟩
  refine ⟨fun fetches => ?_, fun notId => ⟨needed notId, kept⟩⟩
  rw [hkpi]
  congr 3
  refine List.map_congr_left fun r hr => kept fetches r (distinct r ?_)
  exact (List.mem_filter.mp (perm.subset hr)).1

end AggregationEngine

namespace Deals

/-- Deals about a number, a list of numbers, and a number under a name with a comma. The first one
holds the owner's score beside the identifier. -/
def scored : Memory :=
  [("Deal", [
    [("_id", .str "d1"), ("notes", .int 3),
      ("owner", .obj [("_id", .str "u1"), ("score", .int 5)])],
    [("_id", .str "d2"), ("notes", .arr [.int 4])],
    [("_id", .str "d3"), ("notes", .obj [("low,high", .int 7)])]])]

theorem distinct_scored : ∀ r ∈ scored.records "Deal", r.Distinct := by
  simp [scored, Memory.records, Fields.get?_cons, Record.Distinct, Value.Distinct,
    Value.DistinctFields, Value.DistinctItems, Fields.names, Value.int]

end Deals

/-- The number in the notes of the first deal is folded as it is stored. -/
theorem AggregationEngine.kpi_folds_notes :
    ∃ result,
      (Deals.pivots Deals.scored.store).kpi (.new "Deal") ⟨.sum, some "notes"⟩ = .ok result ∧
        result.count = 3 ∧ result.validCount = some 1 := by
  have asked : KpiConfig.field ⟨.sum, some "notes"⟩ = some "notes" := rfl
  have known : (Deals.pivots Deals.scored.store).engine.registry.document? "Deal"
      = some Deals.document := rfl
  have checked : (Deals.pivots Deals.scored.store).engine.build
      ((Deals.pivots Deals.scored.store).kpiRead (.new "Deal") Deals.document "notes")
        = .ok _ := rfl
  have opens : ∀ profile, Access.profileFor? "Deal" (User.new "u1")
      (Deals.pivots Deals.scored.store).engine.registry = some profile → profile.Opens "notes" := by
    intro profile granted
    obtain rfl : Deals.openReaders = profile := Option.some.inj granted
    exact ⟨rfl, rfl⟩
  obtain ⟨stored, perm, _, atPath⟩ := kpi_folds (Deals.pivots Deals.scored.store) (.new "Deal")
    ⟨.sum, some "notes"⟩ Deals.scored rfl rfl (by simp [AggregationRequest.new]) (by decide) asked
    known rfl checked opens rfl (by decide) Deals.distinct_scored
  have folded := (atPath (by decide)).1 (by decide)
  have readings := perm.map fun r => Record.reading? r "notes"
  exact ⟨_, folded, readings.length_eq, congrArg some (readings.filterMap id).length_eq⟩

namespace Deals

/-- The sum over a field of the deals takes fewer readings than they hold, whatever their order. -/
def LosesReadings (field : String) : Prop :=
  ∃ result, (pivots scored.store).kpi (.new "Deal") ⟨.sum, some field⟩ = .ok result ∧
    ∀ stored : List Record, stored.Perm (scored.records "Deal") →
      result.validCount
        ≠ (KpiResult.folded .sum (stored.map fun r => Record.reading? r field)).validCount

theorem losesReadings_of {field : String}
    (returned : ((pivots scored.store).kpi (.new "Deal") ⟨.sum, some field⟩).toOption.map
      (·.validCount) = some (some 0))
    (held : ∃ r ∈ scored.records "Deal", (Record.reading? r field).isSome = true) :
    LosesReadings field := by
  obtain ⟨result, hresult, none⟩ := Option.map_eq_some_iff.mp returned
  refine ⟨result, toOption_eq_some_iff.mp hresult, fun stored perm same => ?_⟩
  obtain ⟨r, hr, hreading⟩ := held
  obtain ⟨x, hx⟩ := Option.isSome_iff_exists.mp hreading
  have read : x ∈ Accumulator.numbers (stored.map fun r => Record.reading? r field) :=
    List.mem_filterMap.mpr ⟨some x, List.mem_map.mpr ⟨r, perm.mem_iff.mpr hr, hx⟩, rfl⟩
  have nothing := Option.some.inj (none.symm.trans same)
  rw [List.length_eq_zero_iff.mp nothing.symm] at read
  cases read

end Deals

/-- The owner's score, what stands at a position of a list, and what has a comma in its path are
stored but not read. -/
theorem AggregationEngine.kpi_loses_readings :
    Deals.LosesReadings "owner.score" ∧ Deals.LosesReadings "notes.0" ∧
      Deals.LosesReadings "notes.low,high" :=
  ⟨Deals.losesReadings_of (by decide +kernel) (by decide +kernel),
    Deals.losesReadings_of (by decide +kernel) (by decide +kernel),
    Deals.losesReadings_of (by decide +kernel) (by decide +kernel)⟩

end RecordQuery
