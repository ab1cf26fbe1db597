import RecordQuery.Pivot.Run
import RecordQuery.Proofs.Aggregation.Request
import RecordQuery.Proofs.Find.RowFilters
import RecordQuery.Proofs.Find.Whole
import RecordQuery.Proofs.Pivot.Layout

/-!
# No pivot of a part

A pivot that is returned covers its whole read. A failure anywhere in the stream, or of the count,
leaves no result, and where records were left out for the limit the result says so.
-/

namespace RecordQuery

namespace Session

theorem start_pivot (layout : PivotLayout) :
    start ⟨.pivot, layout.toValue⟩ = (PivotTable.start layout).map .pivot := by
  rw [start]
  simp only [PivotLayout.ofValue?_toValue]
  rfl

theorem pushAll_pivot (t : PivotTable) (records : List Record) :
    (pivot t).pushAll records = pivot (records.foldl PivotTable.push t) := by
  induction records generalizing t with
  | nil => rfl
  | cons r rest ih => exact ih (t.push r)

end Session

/-- A table of the whole stream, or the failure that ends it. -/
theorem Backend.inProcess_pivot {layout : PivotLayout} {empty : PivotTable}
    (started : PivotTable.start layout = .ok empty) (stream : RecordStream) :
    inProcess ⟨.pivot, layout.toValue⟩ stream = match stream.failure with
      | some e => .error (.streamFailed e.message)
      | none => .ok (.table (stream.records.foldl PivotTable.push empty).toValue) := by
  rw [inProcess, Session.start_pivot, started]
  cases hfailure : stream.failure with
  | some e => rfl
  | none =>
    change Except.ok ((Session.pivot empty).pushAll stream.records).finish = _
    rw [Session.pushAll_pivot]
    rfl

/-- The layout of a valid configuration has rows and values. -/
theorem PivotConfig.start_layout {config : PivotConfig} (valid : config.validate = .ok ())
    (registry : Registry) (document : DocumentType) (language : String) :
    ∃ empty, PivotTable.start (config.layout registry document language) = .ok empty := by
  rw [validate] at valid
  cases hrows : config.rows with
  | nil => simp [hrows] at valid
  | cons row rows =>
    cases hvalues : config.values with
    | nil => simp [hrows, hvalues] at valid
    | cons value values => simp [PivotTable.start, layout, hrows, hvalues]

theorem PivotLimit.of_eq_some_iff {most total : Nat} {l : PivotLimit} :
    of most total = some l ↔ most < total ∧ l = ⟨most, total⟩ := by
  rw [of]
  by_cases h : most < total
  · simp [h, eq_comm]
  · simp [h]

namespace PivotResult

/-- The parts of the result are those of the table over the records. Without any, the table is
empty. -/
def Shows (result : PivotResult) (empty : PivotTable) : List Record → Prop
  | [] => result.data = .arr [] ∧ result.grandTotals = emptyTotals ∧ result.columnHeaders = .arr []
  | first :: rest =>
    let table := (first :: rest).foldl PivotTable.push empty
    result.data = table.rowsValue ∧ result.grandTotals = table.grandValue ∧
      result.columnHeaders = table.headersValue

end PivotResult

namespace AggregationEngine

/-- The read behind a pivot. -/
def pivotRead (a : AggregationEngine) (request : AggregationRequest) (config : PivotConfig)
    (document : DocumentType) : FindRequest :=
  let plan := FieldPlan.ofPaths document
    (config.layout a.engine.registry document request.language).paths
  { request.findRequest plan.fieldList a.cap with lookups := plan.lookups }

variable {a : AggregationEngine} {request : AggregationRequest} {config : PivotConfig}
  {document : DocumentType}

/-- What becomes of a pivot once its read is open. -/
theorem pivot_of_find (here : a.backend = Backend.inProcess) (valid : config.validate = .ok ())
    (known : a.engine.registry.document? request.document = some document) {empty : PivotTable}
    (started : PivotTable.start (config.layout a.engine.registry document request.language)
      = .ok empty)
    {found : FindStream}
    (opened : a.engine.find (a.pivotRead request config document) = .ok found) :
    a.pivot request config = match found.stream with
      | ⟨[], none⟩ =>
        .ok (PivotResult.empty (config.layout a.engine.registry document request.language))
      | ⟨[], some e⟩ => .error (.stream e)
      | ⟨_ :: _, some e⟩ => .error (.bridge (.streamFailed e.message))
      | ⟨first :: rest, none⟩ => (awaitTotal found.total).map fun total =>
        PivotResult.ofTable (config.layout a.engine.registry document request.language)
          ((first :: rest).foldl PivotTable.push empty).toValue total a.cap := by
  rw [pivot, valid, documentOf, known]
  change (a.openRecords (a.pivotRead request config document) >>= _) = _
  rw [openRecords, opened]
  obtain ⟨⟨records, failure⟩, total⟩ := found
  cases records with
  | nil => cases failure <;> rfl
  | cons first rest =>
    -- The read is open: its first record is there.
    change (Except.ok (some (OpenedRecords.mk ⟨first :: rest, failure⟩ total)) >>= _) = _
    simp only [here, Backend.inProcess_pivot started]
    cases failure with
    | some e => rfl
    | none =>
      change (awaitTotal total >>= fun n => _) = _
      cases awaitTotal total <;> rfl

/-- When a pivot with an open read has a result, and which. -/
theorem pivot_eq_ok_iff (here : a.backend = Backend.inProcess) (valid : config.validate = .ok ())
    (known : a.engine.registry.document? request.document = some document) {empty : PivotTable}
    (started : PivotTable.start (config.layout a.engine.registry document request.language)
      = .ok empty)
    {found : FindStream}
    (opened : a.engine.find (a.pivotRead request config document) = .ok found)
    {count : Except StoreError Nat} (counted : found.total = some count) {result : PivotResult} :
    a.pivot request config = .ok result ↔ found.stream.failure = none ∧
      (found.stream.records = [] ∧ result
          = PivotResult.empty (config.layout a.engine.registry document request.language) ∨
        found.stream.records ≠ [] ∧ ∃ n, count = .ok n ∧ result
          = PivotResult.ofTable (config.layout a.engine.registry document request.language)
            (found.stream.records.foldl PivotTable.push empty).toValue n a.cap) := by
  rw [pivot_of_find here valid known started opened, counted]
  obtain ⟨⟨records, failure⟩, total⟩ := found
  cases records with
  | nil => cases failure <;> simp [eq_comm]
  | cons first rest =>
    cases failure with
    | some e => simp
    | none =>
      rw [awaitTotal, map_eq_ok_iff]
      simp only [mapError_eq_ok_iff, reduceCtorEq, false_and, true_and, ne_eq, not_false_eq_true,
        false_or, eq_comm (a := result)]

/-- A result and the read that it covers. -/
structure PivotCovers (a : AggregationEngine) (request : AggregationRequest) (config : PivotConfig)
    (m : Memory) (document : DocumentType) (found : FindStream) (built : BuiltQuery)
    (result : PivotResult) : Prop where
  known : a.engine.registry.document? request.document = some document
  checked : a.engine.build (a.pivotRead request config document) = .ok built
  opened : a.engine.find (a.pivotRead request config document) = .ok found
  noFailure : found.stream.failure = none
  table : ∃ empty,
    PivotTable.start (config.layout a.engine.registry document request.language) = .ok empty ∧
      result.Shows empty found.stream.records
  total : found.stream.records ≠ [] →
    a.engine.store.count request.document built.plan.query = .ok result.total
  limited : ∀ l, result.limited = some l ↔ a.cap < result.total ∧ l = ⟨a.cap, result.total⟩
  /-- Without a limit of the request, no record that matches is missing unless the result says so.
  No read takes more than the greatest limit, so neither may the memory hold more. -/
  complete : (∀ n, request.limit = some n → n ≤ 0) → result.limited = none →
    (m.records request.document).length ≤ AggregationRequest.greatestLimit →
      ∃ (p : Predicate) (stored : List Record), Query.read built.plan.query = .ok p ∧
        stored.Perm (m.matching request.document p) ∧
        RecordStream.Passes (a.engine.stages built (a.pivotRead request config document))
          (stored.map built.plan.projection.apply) found.stream.records

/-- A result has a document and an open read behind it. -/
theorem pivot_eq_ok {result : PivotResult} (h : a.pivot request config = .ok result) :
    ∃ document found, a.engine.registry.document? request.document = some document ∧
      a.engine.find (a.pivotRead request config document) = .ok found := by
  obtain ⟨_, _, h⟩ := bind_eq_ok_iff.mp h
  obtain ⟨document, hdocument, h⟩ := bind_eq_ok_iff.mp h
  obtain ⟨_, hopened, _⟩ := bind_eq_ok_iff.mp h
  obtain ⟨found, hfound, _⟩ := bind_eq_ok_iff.mp hopened
  refine ⟨document, found, ?_, hfound⟩
  rw [documentOf] at hdocument
  split at hdocument
  · rename_i hknown
    exact Except.ok.inj hdocument ▸ hknown
  · cases hdocument

/-- A read without a failure that found no more records than one aggregation takes found all. -/
theorem readsAll {m : Memory} {found : FindStream} {built : BuiltQuery} {cursor : Cursor}
    (h : a.engine.Opened (a.pivotRead request config document) found built cursor)
    (reflects : a.engine.store.Reflects m) (noFailure : found.stream.failure = none)
    (noLimit : ∀ n, request.limit = some n → n ≤ 0)
    (small : (m.records request.document).length ≤ AggregationRequest.greatestLimit)
    (counted : found.stream.records ≠ [] →
      ∃ n, m.count request.document built.plan.query = .ok n ∧ n ≤ a.cap) :
    ∃ (p : Predicate) (stored : List Record), Query.read built.plan.query = .ok p ∧
      stored.Perm (m.matching request.document p) ∧
      RecordStream.Passes (a.engine.stages built (a.pivotRead request config document))
        (stored.map built.plan.projection.apply) found.stream.records := by
  obtain ⟨profile, settled⟩ := QueryEngine.build_eq_ok h.checked
  obtain ⟨p, hp, passes⟩ := h.readsSelected reflects noFailure
  let plan := FieldPlan.ofPaths document
    (config.layout a.engine.registry document request.language).paths
  obtain ⟨skip, limit⟩ := AggregationRequest.page_of_settled settled a.cap_pos rfl
    (AggregationRequest.limit_findRequest noLimit plan.fieldList)
  refine ⟨p, m.select request.document built.plan p, hp, ?_, passes⟩
  by_cases nothing : found.stream.records = []
  · have selected : m.select request.document built.plan p = [] := by
      rw [nothing] at passes
      exact List.map_eq_nil_iff.mp (List.forall₂_nil_right_iff.mp passes)
    have positive : 0 < min a.cap AggregationRequest.greatestLimit :=
      Nat.lt_min.mpr ⟨a.cap_pos, by decide⟩
    rw [selected, Memory.matching_eq_nil skip limit positive selected]
  · obtain ⟨n, hcount, hn⟩ := counted nothing
    rw [Memory.count_of_read hp] at hcount
    obtain rfl := Except.ok.inj hcount
    refine Memory.select_perm skip fun most hmost => ?_
    obtain rfl := Option.some.inj (limit.symm.trans hmost)
    exact Nat.le_min.mpr ⟨hn, Nat.le_trans (List.length_filter_le _ _) small⟩

/-- What is returned covers the read behind it. -/
theorem covers_of_pivot {m : Memory} (here : a.backend = Backend.inProcess)
    (valid : config.validate = .ok ()) (reflects : a.engine.store.Reflects m) {result : PivotResult}
    (h : a.pivot request config = .ok result) :
    ∃ document found built, PivotCovers a request config m document found built result := by
  obtain ⟨document, found, known, opened⟩ := pivot_eq_ok h
  obtain ⟨empty, started⟩ := PivotConfig.start_layout valid a.engine.registry document
    request.language
  obtain ⟨built, cursor, read⟩ := QueryEngine.find_eq_ok opened
  obtain ⟨noFailure, outcome⟩ :=
    (pivot_eq_ok_iff here valid known started opened read.total).mp h
  refine ⟨document, found, built, ?_⟩
  rcases outcome with ⟨nothing, rfl⟩ | ⟨something, n, hcount, rfl⟩
  · refine ⟨known, read.checked, opened, noFailure, ⟨empty, started, ?_⟩,
      fun something => absurd nothing something, fun l => ?_, fun noLimit _ small =>
        readsAll read reflects noFailure noLimit small fun something => absurd nothing something⟩
    · rw [nothing]
      exact ⟨rfl, rfl, rfl⟩
    · simp [PivotResult.empty]
  · refine ⟨known, read.checked, opened, noFailure, ⟨empty, started, ?_⟩, fun _ => hcount,
      fun l => PivotLimit.of_eq_some_iff, fun noLimit notLimited small =>
        readsAll read reflects noFailure noLimit small fun _ =>
          ⟨n, reflects.count _ _ _ hcount, ?_⟩⟩
    · obtain ⟨first, rest, hrecords⟩ := List.exists_cons_of_ne_nil something
      rw [hrecords]
      exact ⟨rfl, rfl, rfl⟩
    · refine Nat.le_of_not_lt fun more => ?_
      have told := PivotLimit.of_eq_some_iff.mpr ⟨more, rfl⟩
      exact absurd (told.symm.trans notLimited) (by simp)

/-- A failure of the stream, or of the count of a stream with records, leaves no result. Nothing
else does once the read is open. -/
theorem exists_pivot_iff (here : a.backend = Backend.inProcess) (valid : config.validate = .ok ())
    (known : a.engine.registry.document? request.document = some document) {found : FindStream}
    (opened : a.engine.find (a.pivotRead request config document) = .ok found) :
    (∃ result, a.pivot request config = .ok result) ↔ found.stream.failure = none ∧
      (found.stream.records = [] ∨ ∃ n, found.total = some (.ok n)) := by
  obtain ⟨empty, started⟩ := PivotConfig.start_layout valid a.engine.registry document
    request.language
  obtain ⟨built, cursor, read⟩ := QueryEngine.find_eq_ok opened
  have total : found.total
      = some (a.engine.store.count request.document built.plan.query) := read.total
  simp only [pivot_eq_ok_iff here valid known started opened total, total, Option.some.injEq]
  constructor
  · rintro ⟨result, noFailure, ⟨nothing, _⟩ | ⟨_, n, hcount, _⟩⟩
    · exact ⟨noFailure, .inl nothing⟩
    · exact ⟨noFailure, .inr ⟨n, hcount⟩⟩
  · rintro ⟨noFailure, counted⟩
    by_cases nothing : found.stream.records = []
    · exact ⟨_, noFailure, .inl ⟨nothing, rfl⟩⟩
    · obtain ⟨n, hcount⟩ := counted.resolve_left nothing
      exact ⟨_, noFailure, .inr ⟨nothing, n, hcount, rfl⟩⟩

/-- A pivot that is returned covers its whole read, and what it left out for the limit it tells. It
is returned exactly if the stream ends without a failure and, unless it is empty, the records could
be counted. -/
theorem pivot_whole (a : AggregationEngine) (request : AggregationRequest) (config : PivotConfig)
    (m : Memory) (here : a.backend = Backend.inProcess) (valid : config.validate = .ok ())
    (reflects : a.engine.store.Reflects m) :
    (∀ result, a.pivot request config = .ok result → ∃ document found built,
      PivotCovers a request config m document found built result) ∧
    ∀ document found, a.engine.registry.document? request.document = some document →
      a.engine.find (a.pivotRead request config document) = .ok found →
        ((∃ result, a.pivot request config = .ok result) ↔ found.stream.failure = none ∧
          (found.stream.records = [] ∨ ∃ n, found.total = some (.ok n))) :=
  ⟨fun _ h => covers_of_pivot here valid reflects h,
    fun _ _ known opened => exists_pivot_iff here valid known opened⟩

end AggregationEngine

namespace Deals

/-- Everything may be read. -/
def openReaders : Profile :=
  ⟨⟨true, false, false, false⟩, ⟨true, false, false, false⟩, [], none⟩

/-- Owners by note. -/
def byNote : PivotConfig := ⟨[], [⟨"notes", none, none⟩], [⟨"owner", .count, none⟩], none⟩

def calls : Memory :=
  [("Deal", [[("_id", .str "d1"), ("notes", .str "call")],
    [("_id", .str "d2"), ("notes", .str "ask")]])]

def pivots (store : Store) : AggregationEngine := ⟨engine openReaders store, Backend.inProcess, 10⟩

end Deals

/-- Both deals are in the table; a cursor that is lost after the first leaves none. -/
theorem AggregationEngine.pivot_whole_calls :
    Deals.byNote.validate = .ok () ∧ Deals.calls.store.Reflects Deals.calls ∧
    (Deals.calls.losing 1 "gone").Reflects Deals.calls ∧
    (∃ result, (Deals.pivots Deals.calls.store).pivot (.new "Deal") Deals.byNote = .ok result ∧
      ∃ document found built, PivotCovers (Deals.pivots Deals.calls.store) (.new "Deal")
        Deals.byNote Deals.calls document found built result) ∧
    ¬ ∃ result, (Deals.pivots (Deals.calls.losing 1 "gone")).pivot (.new "Deal") Deals.byNote
      = .ok result := by
  have valid : Deals.byNote.validate = .ok () := rfl
  have reflects := Deals.calls.reflects_store
  have losing := Deals.calls.reflects_losing 1 "gone"
  refine ⟨valid, reflects, losing, ?_, ?_⟩
  · obtain ⟨covers, returned⟩ :=
      pivot_whole (Deals.pivots Deals.calls.store) (.new "Deal") Deals.byNote Deals.calls rfl valid
        reflects
    obtain ⟨result, hresult⟩ := (returned Deals.document _ rfl rfl).mpr ⟨rfl, .inr ⟨2, rfl⟩⟩
    exact ⟨result, hresult, covers result hresult⟩
  · have returned := (pivot_whole (Deals.pivots (Deals.calls.losing 1 "gone")) (.new "Deal")
      Deals.byNote Deals.calls rfl valid losing).2 Deals.document _ rfl rfl
    intro h
    cases (returned.mp h).1

end RecordQuery
