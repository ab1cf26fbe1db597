import RecordQuery.Chart.Run
import RecordQuery.Kpi.Run
import RecordQuery.Pivot.Run
import RecordQuery.Proofs.Find.RowFilters

/-!
# Rejected requests

Whether a request is rejected, and with which error, is settled before the store is asked anything.
So a rejection tells nothing about what is stored, and a caller who is nobody reads nothing.
-/

namespace RecordQuery

namespace QueryError

/-- The request is at fault: its caller, what the caller may do, its document, its filters or its
order, a condition on one of its fields, or the configuration of its aggregation. -/
def isRejection : QueryError → Bool
  | auth _ | access _ | compile _ | unknownDocument _ => true
  | aggregation (.chart (.processing _)) => false
  | aggregation _ => true
  | store _ | stream _ | bridge _ => false

end QueryError

section
variable {ε α β : Type}

/-- Whatever fails here does not reject the request. -/
def Accepts (x : Except QueryError α) : Prop := ∀ e, x = .error e → e.isRejection = false

/-- What rejects one rejects the other, with the same error. -/
def RejectAlike (x y : Except QueryError α) : Prop :=
  ∀ e : QueryError, e.isRejection = true → (x = .error e ↔ y = .error e)

theorem accepts_ok (a : α) : Accepts (.ok a) := by
  intro e h
  cases h

theorem accepts_mapError {f : ε → QueryError} (later : ∀ e, (f e).isRejection = false)
    (x : Except ε α) : Accepts (x.mapError f) := by
  intro e h
  obtain ⟨cause, _, rfl⟩ := mapError_eq_error_iff.mp h
  exact later cause

theorem Accepts.bind {x : Except QueryError α} {f : α → Except QueryError β} (h : Accepts x)
    (next : ∀ a, Accepts (f a)) : Accepts (x >>= f) := by
  intro e he
  rcases bind_eq_error_iff.mp he with hx | ⟨a, _, hf⟩
  · exact h e hx
  · exact next a e hf

theorem Accepts.rejectAlike {x y : Except QueryError α} (hx : Accepts x) (hy : Accepts y) :
    RejectAlike x y := by
  intro e rejection
  constructor
  · intro h
    exact absurd (hx e h) (by simp [rejection])
  · intro h
    exact absurd (hy e h) (by simp [rejection])

namespace RejectAlike

/-- After a step that is the same in both. -/
theorem after (x : Except QueryError α) {f g : α → Except QueryError β}
    (next : ∀ a, RejectAlike (f a) (g a)) : RejectAlike (x >>= f) (x >>= g) := by
  intro e rejection
  rw [bind_eq_error_iff, bind_eq_error_iff]
  refine or_congr_right (exists_congr fun a => and_congr_right fun _ => next a e rejection)

/-- Once neither can be rejected any more. -/
theorem bind {x y : Except QueryError α} {f g : α → Except QueryError β} (h : RejectAlike x y)
    (hf : ∀ a, Accepts (f a)) (hg : ∀ a, Accepts (g a)) : RejectAlike (x >>= f) (y >>= g) := by
  intro e rejection
  have later : ∀ {z : Except QueryError α} {k : α → Except QueryError β}, (∀ a, Accepts (k a)) →
      ((z >>= k) = .error e ↔ z = .error e) := by
    intro z k hk
    rw [bind_eq_error_iff]
    refine or_iff_left ?_
    rintro ⟨a, _, ha⟩
    exact absurd (hk a e ha) (by simp [rejection])
  rw [later hf, later hg, h e rejection]

end RejectAlike

end

namespace QueryEngine

/-- The engine reading from another store. -/
def onStore (engine : QueryEngine) (store : Store) : QueryEngine := { engine with store }

theorem accepts_openStream (engine : QueryEngine) (built : BuiltQuery) (request : FindRequest) :
    Accepts (engine.openStream built request) :=
  (accepts_mapError (fun _ => rfl) _).bind fun _ => accepts_ok _

/-- A read is checked without its store. -/
theorem find_rejectAlike (engine : QueryEngine) (s₁ s₂ : Store) (request : FindRequest) :
    RejectAlike ((engine.onStore s₁).find request) ((engine.onStore s₂).find request) :=
  RejectAlike.after (engine.build request) fun built =>
    (accepts_openStream (engine.onStore s₁) built request).rejectAlike
      (accepts_openStream (engine.onStore s₂) built request)

theorem find_of_nobody {engine : QueryEngine} {request : FindRequest} {e : AuthError}
    (nobody : engine.resolver request.token = .error e) :
    engine.find request = .error (.auth e) := by
  rw [find, build, nobody]
  rfl

end QueryEngine

namespace AggregationEngine

/-- The engine reading from another store. -/
def onStore (a : AggregationEngine) (store : Store) : AggregationEngine :=
  { a with engine := a.engine.onStore store }

variable (a : AggregationEngine) (s₁ s₂ : Store)

theorem openRecords_rejectAlike (request : FindRequest) :
    RejectAlike ((a.onStore s₁).openRecords request) ((a.onStore s₂).openRecords request) := by
  refine (a.engine.find_rejectAlike s₁ s₂ request).bind ?_ ?_
  all_goals
    rintro ⟨⟨records, failure⟩, total⟩ e h
    cases records with
    | nil =>
      cases failure with
      | none => cases h
      | some cause =>
        obtain rfl := Except.error.inj h
        rfl
    | cons first rest => cases h

theorem accepts_awaitTotal (total : Option (Except StoreError Nat)) :
    Accepts (awaitTotal total) := by
  cases total with
  | none => exact accepts_ok 0
  | some count => exact accepts_mapError (fun _ => rfl) count

theorem pivot_rejectAlike (request : AggregationRequest) (config : PivotConfig) :
    RejectAlike ((a.onStore s₁).pivot request config) ((a.onStore s₂).pivot request config) := by
  refine RejectAlike.after _ fun _ => RejectAlike.after (a.documentOf request.document) fun _ => ?_
  refine (a.openRecords_rejectAlike s₁ s₂ _).bind ?_ ?_
  all_goals
    intro opened
    cases opened with
    | none => exact accepts_ok _
    | some opened =>
      exact (accepts_mapError (fun _ => rfl) _).bind fun _ =>
        (accepts_mapError (fun _ => rfl) _).bind fun _ =>
          (accepts_awaitTotal _).bind fun _ => accepts_ok _

theorem chart_rejectAlike (request : AggregationRequest) (config : Option ChartConfig) :
    RejectAlike ((a.onStore s₁).chart request config) ((a.onStore s₂).chart request config) := by
  refine RejectAlike.after _ fun _ => RejectAlike.after (a.documentOf request.document) fun _ =>
    RejectAlike.after _ fun _ => ?_
  refine (a.openRecords_rejectAlike s₁ s₂ _).bind ?_ ?_
  all_goals
    intro opened
    cases opened with
    | none => exact accepts_ok _
    | some opened => exact (accepts_mapError (fun _ => rfl) _).bind fun _ => accepts_ok _

theorem kpiCount_rejectAlike (request : AggregationRequest) :
    RejectAlike ((a.onStore s₁).kpiCount request) ((a.onStore s₂).kpiCount request) :=
  (a.engine.find_rejectAlike s₁ s₂ _).bind
    (fun _ => (accepts_awaitTotal _).bind fun _ => accepts_ok _)
    (fun _ => (accepts_awaitTotal _).bind fun _ => accepts_ok _)

theorem kpiFold_rejectAlike (request : AggregationRequest) (operation : Aggregator)
    (field : String) :
    RejectAlike ((a.onStore s₁).kpiFold request operation field)
      ((a.onStore s₂).kpiFold request operation field) := by
  refine RejectAlike.after (a.documentOf request.document) fun _ => ?_
  refine (a.openRecords_rejectAlike s₁ s₂ _).bind ?_ ?_
  all_goals
    intro opened
    cases opened with
    | none => exact accepts_ok _
    | some opened =>
      exact (accepts_mapError (fun _ => rfl) _).bind fun _ =>
        (accepts_mapError (fun _ => rfl) _).bind fun _ => accepts_ok _

theorem kpi_rejectAlike (request : AggregationRequest) (config : KpiConfig) :
    RejectAlike ((a.onStore s₁).kpi request config) ((a.onStore s₂).kpi request config) := by
  have refused : ∀ operation, RejectAlike
      (.error (.aggregation (.kpiFieldMissing operation)) : Except QueryError KpiResult)
      (.error (.aggregation (.kpiFieldMissing operation))) := fun _ _ _ => Iff.rfl
  rw [kpi, kpi]
  cases config.operation with
  | count => exact a.kpiCount_rejectAlike s₁ s₂ request
  | _ =>
    cases config.field with
    | none => exact refused _
    | some field => exact a.kpiFold_rejectAlike s₁ s₂ request _ field

/-! Callers who are nobody. -/

section
variable {a : AggregationEngine}

theorem openRecords_of_nobody {request : FindRequest} {e : AuthError}
    (nobody : a.engine.resolver request.token = .error e) :
    a.openRecords request = .error (.auth e) := by
  rw [openRecords, QueryEngine.find_of_nobody nobody]
  rfl

variable {request : AggregationRequest} {e : AuthError}

theorem pivot_of_nobody (nobody : a.engine.resolver request.token = .error e)
    (config : PivotConfig) (result : PivotResult) : a.pivot request config ≠ .ok result := by
  intro h
  obtain ⟨_, _, h⟩ := bind_eq_ok_iff.mp h
  obtain ⟨_, _, h⟩ := bind_eq_ok_iff.mp h
  obtain ⟨_, hopened, _⟩ := bind_eq_ok_iff.mp h
  cases (openRecords_of_nobody nobody).symm.trans hopened

theorem chart_of_nobody (nobody : a.engine.resolver request.token = .error e)
    (config : Option ChartConfig) (result : ChartResult) : a.chart request config ≠ .ok result := by
  intro h
  obtain ⟨_, _, h⟩ := bind_eq_ok_iff.mp h
  obtain ⟨_, _, h⟩ := bind_eq_ok_iff.mp h
  obtain ⟨_, _, h⟩ := bind_eq_ok_iff.mp h
  obtain ⟨_, hopened, _⟩ := bind_eq_ok_iff.mp h
  cases (openRecords_of_nobody nobody).symm.trans hopened

theorem kpiCount_of_nobody (nobody : a.engine.resolver request.token = .error e)
    (result : KpiResult) : a.kpiCount request ≠ .ok result := by
  intro h
  obtain ⟨_, hfound, _⟩ := bind_eq_ok_iff.mp h
  cases (QueryEngine.find_of_nobody nobody).symm.trans hfound

theorem kpiFold_of_nobody (nobody : a.engine.resolver request.token = .error e)
    (operation : Aggregator) (field : String) (result : KpiResult) :
    a.kpiFold request operation field ≠ .ok result := by
  intro h
  obtain ⟨_, _, h⟩ := bind_eq_ok_iff.mp h
  obtain ⟨_, hopened, _⟩ := bind_eq_ok_iff.mp h
  cases (openRecords_of_nobody nobody).symm.trans hopened

theorem kpi_of_nobody (nobody : a.engine.resolver request.token = .error e) (config : KpiConfig)
    (result : KpiResult) : a.kpi request config ≠ .ok result := by
  rw [kpi]
  cases config.operation with
  | count => exact kpiCount_of_nobody nobody result
  | _ =>
    cases config.field with
    | none => simp
    | some field => exact kpiFold_of_nobody nobody _ field result

end

/-- A request is rejected over one store exactly if it is rejected over any other, with the same
error, whether records are read or aggregated. A token that is nobody's never leads to a result. -/
theorem rejection_ignores_store (a : AggregationEngine) (s₁ s₂ : Store) :
    (∀ request,
      RejectAlike ((a.engine.onStore s₁).find request) ((a.engine.onStore s₂).find request)) ∧
    (∀ request config,
      RejectAlike ((a.onStore s₁).pivot request config) ((a.onStore s₂).pivot request config)) ∧
    (∀ request config,
      RejectAlike ((a.onStore s₁).chart request config) ((a.onStore s₂).chart request config)) ∧
    (∀ request config,
      RejectAlike ((a.onStore s₁).kpi request config) ((a.onStore s₂).kpi request config)) ∧
    (∀ token e, a.engine.resolver token = .error e →
      (∀ request : FindRequest, request.token = token → ∀ found,
        a.engine.find request ≠ .ok found) ∧
      ∀ request : AggregationRequest, request.token = token →
        (∀ config result, a.pivot request config ≠ .ok result) ∧
        (∀ config result, a.chart request config ≠ .ok result) ∧
        ∀ config result, a.kpi request config ≠ .ok result) := by
  refine ⟨a.engine.find_rejectAlike s₁ s₂, a.pivot_rejectAlike s₁ s₂, a.chart_rejectAlike s₁ s₂,
    a.kpi_rejectAlike s₁ s₂, fun token e nobody => ⟨?_, ?_⟩⟩
  · rintro request rfl found h
    cases (QueryEngine.find_of_nobody nobody).symm.trans h
  · rintro request rfl
    exact ⟨pivot_of_nobody nobody, chart_of_nobody nobody, kpi_of_nobody nobody⟩

end AggregationEngine

namespace Deals

/-- Callers with a token of a table, over a memory without deals. -/
def tabled : AggregationEngine where
  engine := { publicEngine with resolver := Resolver.ofTable [("tok", User.new "u1")] }
  backend := Backend.inProcess
  maxRecords := 10

/-- A store that answers nothing. -/
def silent : Store where
  find _ _ := .error (.cursor "gone")
  count _ _ := .error (.cursor "gone")
  findById _ _ := .error (.cursor "gone")

/-- A read in an order that no text spells. -/
def unsorted : FindRequest :=
  { FindRequest.new "Deal" with token := some "tok", sort := some (.str "newest") }

end Deals

/-- The order is refused whether the store answers or not, and an unknown token draws no chart. -/
theorem AggregationEngine.rejection_ignores_store_unsorted :
    Deals.tabled.engine.find Deals.unsorted = .error (.compile (.invalidSort .notReadable)) ∧
    (Deals.tabled.engine.onStore Deals.silent).find Deals.unsorted
      = .error (.compile (.invalidSort .notReadable)) ∧
    Deals.tabled.engine.resolver (some "other") = .error .invalidToken ∧
    ∀ config result, Deals.tabled.chart { AggregationRequest.new "Deal" with token := some "other" }
      config ≠ .ok result := by
  obtain ⟨finds, _, _, _, nobody⟩ :=
    rejection_ignores_store Deals.tabled Deals.tabled.engine.store Deals.silent
  have here : Deals.tabled.engine.find Deals.unsorted
      = .error (.compile (.invalidSort .notReadable)) := rfl
  have unknown : Deals.tabled.engine.resolver (some "other") = .error .invalidToken := rfl
  exact ⟨here, (finds Deals.unsorted _ rfl).mp here, unknown,
    ((nobody _ _ unknown).2 _ rfl).2.1⟩

end RecordQuery
